import TopicHealth.Document
import TopicHealth.Yaml.Token

/-!
# YAML documents

The tree that the tokens of a text describe. A text holds exactly one document. Where a value is left out, an
empty plain scalar stands for it. Where the text stops making sense the tree breaks off, and what stands before is
kept: it is read in order, and may be found wanting before the break is reached.
-/

namespace TopicHealth.Yaml

/-- The scalar that stands for a value left out. -/
def absent : Document := .plain ""

/-- A piece of a tree. -/
structure Piece (α : Type) where
  value : α
  /-- The tokens after the piece, unless it breaks off. -/
  rest : Option (List Token)

namespace Piece

variable {α β : Type}

def map (f : α → β) (p : Piece α) : Piece β := ⟨f p.value, p.rest⟩

/-- An item and the items after it. -/
def followedBy (item : Piece α) (more : List Token → Piece (List α)) : Piece (List α) :=
  match item.rest with
  | none => ⟨[item.value], none⟩
  | some rest => (more rest).map (item.value :: ·)

/-- A key and its value. -/
def pairedWith (key : Piece Document) (value : List Token → Piece Document) : Piece (Document × Document) :=
  match key.rest with
  | none => ⟨(key.value, .broken), none⟩
  | some rest => (value rest).map (key.value, ·)

end Piece

/-- A value that breaks off. -/
def brokenValue : Piece Document := ⟨.broken, none⟩

/-- A list of values that breaks off. -/
def brokenItems : Piece (List Document) := ⟨[.broken], none⟩

/-- A list of entries that breaks off. -/
def brokenPairs : Piece (List (Document × Document)) := ⟨[(.broken, .broken)], none⟩

mutual

/-- A value. In a block mapping a sequence may stand at the column of its key (`indentless`), and only inside a
block (`block`) may one start. `fuel` bounds the number of tokens. -/
def node (fuel : Nat) (block indentless : Bool) (tokens : List Token) : Piece Document :=
  match fuel, tokens with
  | 0, _ => brokenValue
  | fuel + 1, .blockEntry :: _ => if indentless then (indentlessItems fuel tokens).map .sequence else brokenValue
  | _ + 1, .scalar plain text :: rest => ⟨if plain then .plain text else .text text, some rest⟩
  | fuel + 1, .flowSequenceStart :: rest => (flowItems fuel true rest).map .sequence
  | fuel + 1, .flowMappingStart :: rest => (flowPairs fuel true rest).map .mapping
  | fuel + 1, .blockSequenceStart :: rest => if block then (blockItems fuel rest).map .sequence else brokenValue
  | fuel + 1, .blockMappingStart :: rest => if block then (blockPairs fuel rest).map .mapping else brokenValue
  | _ + 1, _ => brokenValue

/-- The items of a block sequence and its end. -/
def blockItems (fuel : Nat) (tokens : List Token) : Piece (List Document) :=
  match fuel, tokens with
  | fuel + 1, .blockEntry :: rest =>
    let item : Piece Document := match rest with
      | .blockEntry :: _ | .blockEnd :: _ => ⟨absent, some rest⟩
      | rest => node fuel true false rest
    item.followedBy fun rest => blockItems fuel rest
  | _, .blockEnd :: rest => ⟨[], some rest⟩
  | _, _ => brokenItems

/-- The items of a sequence without a block of its own; it ends where no dash follows. -/
def indentlessItems (fuel : Nat) (tokens : List Token) : Piece (List Document) :=
  match fuel, tokens with
  | fuel + 1, .blockEntry :: rest =>
    let item : Piece Document := match rest with
      | .blockEntry :: _ | .key :: _ | .value :: _ | .blockEnd :: _ => ⟨absent, some rest⟩
      | rest => node fuel true false rest
    item.followedBy fun rest => indentlessItems fuel rest
  | _, rest => ⟨[], some rest⟩

/-- A key or value of a block mapping. -/
def blockPart (fuel : Nat) (tokens : List Token) : Piece Document :=
  match fuel, tokens with
  | _, .key :: _ | _, .value :: _ | _, .blockEnd :: _ => ⟨absent, some tokens⟩
  | 0, _ => brokenValue
  | fuel + 1, _ => node fuel true true tokens

/-- The entries of a block mapping and its end. -/
def blockPairs (fuel : Nat) (tokens : List Token) : Piece (List (Document × Document)) :=
  match fuel, tokens with
  | fuel + 1, .key :: rest =>
    let pair := (blockPart fuel rest).pairedWith fun
      | .value :: rest => blockPart fuel rest
      | [] => brokenValue
      | rest => ⟨absent, some rest⟩
    pair.followedBy fun rest => blockPairs fuel rest
  | _, .blockEnd :: rest => ⟨[], some rest⟩
  | _, _ => brokenPairs

/-- The value that may follow a key of a flow collection. -/
def flowValue (fuel : Nat) (tokens : List Token) : Piece Document :=
  match fuel, tokens with
  | _, .value :: .flowEntry :: rest => ⟨absent, some (.flowEntry :: rest)⟩
  | _, .value :: .flowSequenceEnd :: rest => ⟨absent, some (.flowSequenceEnd :: rest)⟩
  | _, .value :: .flowMappingEnd :: rest => ⟨absent, some (.flowMappingEnd :: rest)⟩
  | fuel + 1, .value :: rest => node fuel false false rest
  | _, [] => brokenValue
  | _, rest => ⟨absent, some rest⟩

/-- The items of a flow sequence and its closing bracket. A key among them makes a mapping of one entry; the token
after a key that is left out goes with it. -/
def flowItems (fuel : Nat) (first : Bool) (tokens : List Token) : Piece (List Document) :=
  match fuel, first, tokens with
  | _, _, .flowSequenceEnd :: rest => ⟨[], some rest⟩
  | fuel + 1, true, .key :: rest =>
    let key : Piece Document := match rest with
      | .value :: rest | .flowEntry :: rest | .flowSequenceEnd :: rest => ⟨absent, some rest⟩
      | rest => node fuel false false rest
    let pair := key.pairedWith fun rest => flowValue fuel rest
    (pair.map fun pair => .mapping [pair]).followedBy fun rest => flowItems fuel false rest
  | fuel + 1, true, tokens => (node fuel false false tokens).followedBy fun rest => flowItems fuel false rest
  | fuel + 1, false, .flowEntry :: rest => flowItems fuel true rest
  | _, _, _ => brokenItems

/-- The entries of a flow mapping and its closing brace. A value alone is a key without a value. -/
def flowPairs (fuel : Nat) (first : Bool) (tokens : List Token) : Piece (List (Document × Document)) :=
  match fuel, first, tokens with
  | _, _, .flowMappingEnd :: rest => ⟨[], some rest⟩
  | fuel + 1, true, .key :: rest =>
    let key : Piece Document := match rest with
      | .value :: _ | .flowEntry :: _ | .flowMappingEnd :: _ => ⟨absent, some rest⟩
      | rest => node fuel false false rest
    let pair := key.pairedWith fun rest => flowValue fuel rest
    pair.followedBy fun rest => flowPairs fuel false rest
  | fuel + 1, true, tokens =>
    let pair := (node fuel false false tokens).pairedWith fun rest => ⟨absent, some rest⟩
    pair.followedBy fun rest => flowPairs fuel false rest
  | fuel + 1, false, .flowEntry :: rest => flowPairs fuel true rest
  | _, _, _ => brokenPairs

end

/-- The first document of a token list. -/
def firstDocument (tokens : List Token) : Piece Document :=
  let fuel := 3 * tokens.length + 3
  match tokens with
  | .streamEnd :: _ => ⟨absent, some tokens⟩
  | .documentStart :: rest => match rest with
    | .documentStart :: _ | .documentEnd :: _ | .streamEnd :: _ => ⟨absent, some rest⟩
    | rest => node fuel true false rest
  | tokens => node fuel true false tokens

/-- A text as a tree. -/
structure Parsed where
  tree : Document
  /-- The tree is the one document of a text without faults. -/
  whole : Bool

/-- The tree of a text. -/
def parse (text : String) : Parsed :=
  let first := firstDocument (tokens text)
  ⟨first.value, first.rest.any fun rest => rest.dropWhile (· = .documentEnd) = [.streamEnd]⟩

end TopicHealth.Yaml
