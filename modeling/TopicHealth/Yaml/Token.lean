import TopicHealth.Yaml.Scalar

/-!
# YAML tokens

The text of a configuration file as tokens. Block structure shows in indentation: a deeper column opens a block
and a shallower one closes it. A scalar that turns out to stand before a colon becomes a key afterwards, so a token
waits in a queue for as long as it may still become one. Covered are block and flow collections, plain and quoted
scalars, comments and document markers; anchors, tags, directives and block scalars are refused.

`tokens` gives the tokens up to the first fault of the text; the end of the text is a token of its own, so that the
list tells whether it is whole.
-/

namespace TopicHealth.Yaml

/-- A token of the text. -/
inductive Token where
  | documentStart
  | documentEnd
  | blockSequenceStart
  | blockMappingStart
  | blockEnd
  | flowSequenceStart
  | flowSequenceEnd
  | flowMappingStart
  | flowMappingEnd
  | blockEntry
  | flowEntry
  | key
  | value
  | scalar (plain : Bool) (text : String)
  /-- The end of the text. -/
  | streamEnd
deriving DecidableEq, Repr

/-- A scalar or collection that may turn out to be a key. -/
structure KeyPlace where
  /-- How many tokens stand before it. -/
  position : Nat
  /-- Whether the block needs it to be one. -/
  required : Bool
  cursor : Cursor

/-- What has been scanned, and what the next token depends on. -/
structure Scanner where
  cursor : Cursor
  /-- How many tokens have been taken from the queue. -/
  taken : Nat := 0
  /-- The tokens that wait. -/
  queue : List Token := []
  /-- The column of the innermost open block, and those of the blocks around it. -/
  indent : Int := -1
  outer : List Int := []
  /-- The possible keys of the open flow collections, the innermost first, and that of the block at the end. -/
  keys : List (Option KeyPlace) := [none]
  keyAllowed : Bool := true

namespace Scanner

def inFlow (s : Scanner) : Bool := 1 < s.keys.length

def push (s : Scanner) (t : Token) : Scanner := { s with queue := s.queue ++ [t] }

/-- The position of the token that is pushed next. -/
def position (s : Scanner) : Nat := s.taken + s.queue.length

/-- Puts a token in front of those from a position on. -/
def insertAt (s : Scanner) (position : Nat) (t : Token) : Scanner :=
  let waiting := position - s.taken
  { s with queue := s.queue.take waiting ++ t :: s.queue.drop waiting }

/-! ## Keys -/

/-- Gives up the possible key of the innermost collection. -/
def dropKey (s : Scanner) : Except Fault Scanner :=
  match s.keys with
  | some k :: rest => if k.required then .error .malformed else .ok { s with keys := none :: rest }
  | _ => .ok s

/-- A key ends on its line and within 1024 characters. -/
def isStale (s : Scanner) (k : KeyPlace) : Bool :=
  k.cursor.line < s.cursor.line || k.cursor.index + 1024 < s.cursor.index

/-- Gives up every possible key that the text has run past. -/
def dropStaleKeys (s : Scanner) : Except Fault Scanner := do
  let keys ← s.keys.mapM fun
    | some k =>
      if s.isStale k then if k.required then throw .malformed else return none else return some k
    | none => return none
  return { s with keys }

/-- Notes that what comes next may be a key. -/
def saveKey (s : Scanner) : Except Fault Scanner := do
  if !s.keyAllowed then return s
  let s ← s.dropKey
  let place : KeyPlace := ⟨s.position, !s.inFlow && s.indent = s.cursor.column, s.cursor⟩
  return { s with keys := some place :: s.keys.drop 1 }

/-- Whether the token at the front of the queue may still become a key. -/
def frontMayBeKey (s : Scanner) : Bool :=
  s.keys.any fun place => place.any fun k => k.position = s.taken

/-! ## Blocks -/

/-- Opens a block at a column deeper than the current one, with its token at a position. -/
def openBlock (s : Scanner) (column position : Nat) (t : Token) : Scanner :=
  if !s.inFlow && s.indent < column then
    { s.insertAt position t with indent := column, outer := s.indent :: s.outer }
  else s

/-- Closes the blocks deeper than a column. -/
def closeBlocks (s : Scanner) (column : Int) : Scanner :=
  if s.inFlow then s
  else close s.outer s
where
  close : List Int → Scanner → Scanner
    | [], s => s
    | i :: rest, s =>
      if column < s.indent then close rest { s.push .blockEnd with indent := i, outer := rest } else s

/-! ## One token -/

/-- Passes blanks, comments and line ends before a token. A tab may only stand where no key can, and a byte order
mark at the start of a line takes up a column. -/
def skipGap (fuel : Nat) (s : Scanner) : Scanner :=
  match fuel, s.cursor.rest with
  | _, [] | 0, _ => s
  | fuel + 1, c :: rest =>
    if c = ' ' || (c = '\t' && (s.inFlow || !s.keyAllowed)) || (c = '\ufeff' && s.cursor.column = 0) then
      { s with cursor := s.cursor.next }.skipGap fuel
    else if c = '#' then
      { s with cursor := s.cursor.skipTo (rest.dropWhile fun c => !isBreak c) }.skipGap fuel
    else if isBreak c then
      { s with cursor := s.cursor.next, keyAllowed := s.keyAllowed || !s.inFlow }.skipGap fuel
    else s

def skip (s : Scanner) (count : Nat) : Scanner := { s with cursor := s.cursor.skip count }

/-- A marker of a document's start or end. -/
def marker (s : Scanner) (t : Token) : Except Fault Scanner := do
  let s ← (s.closeBlocks (-1)).dropKey
  return { s.push t with keyAllowed := false }.skip 3

/-- The end of the text, which ends its last line too. -/
def endOfText (s : Scanner) : Except Fault Scanner := do
  let p := s.cursor
  let s := if p.column = 0 then s else { s with cursor := { p with line := p.line + 1, column := 0 } }
  let s ← (s.closeBlocks (-1)).dropKey
  return { s.push .streamEnd with keyAllowed := false }

/-- An opening bracket. -/
def openFlow (s : Scanner) (t : Token) : Except Fault Scanner := do
  let s ← s.saveKey
  return { s.push t with keys := none :: s.keys, keyAllowed := true }.skip 1

/-- A closing bracket. -/
def closeFlow (s : Scanner) (t : Token) : Except Fault Scanner := do
  let s ← s.dropKey
  return { s.push t with keys := if s.inFlow then s.keys.drop 1 else s.keys, keyAllowed := false }.skip 1

/-- A comma. -/
def flowEntry (s : Scanner) : Except Fault Scanner := do
  let s ← s.dropKey
  return { s.push .flowEntry with keyAllowed := true }.skip 1

/-- A dash. -/
def blockEntry (s : Scanner) : Except Fault Scanner := do
  if !s.inFlow && !s.keyAllowed then throw .malformed
  let s ← (s.openBlock s.cursor.column s.position .blockSequenceStart).dropKey
  return { s.push .blockEntry with keyAllowed := true }.skip 1

/-- A question mark, which announces a key. -/
def explicitKey (s : Scanner) : Except Fault Scanner := do
  if !s.inFlow && !s.keyAllowed then throw .malformed
  let s ← (s.openBlock s.cursor.column s.position .blockMappingStart).dropKey
  return { s.push .key with keyAllowed := !s.inFlow }.skip 1

/-- A colon. What may be a key before it becomes one, and a block opens at its column. -/
def value (s : Scanner) : Except Fault Scanner := do
  match s.keys with
  | some k :: rest =>
    let s := s.insertAt k.position .key
    let s := s.openBlock k.cursor.column k.position .blockMappingStart
    return { s.push .value with keys := none :: rest, keyAllowed := false }.skip 1
  | _ =>
    if !s.inFlow && !s.keyAllowed then throw .malformed
    let s := s.openBlock s.cursor.column s.position .blockMappingStart
    return { s.push .value with keyAllowed := !s.inFlow }.skip 1

/-- A scalar in quotes. -/
def quoted (s : Scanner) (double : Bool) : Except Fault Scanner := do
  let s ← s.saveKey
  let (text, p) ← quotedScalar s.cursor.rest.length double s.cursor.next []
  return { s.push (.scalar false (String.ofList text)) with cursor := p, keyAllowed := false }

/-- A scalar without quotes. -/
def plain (s : Scanner) : Except Fault Scanner := do
  let s ← s.saveKey
  let (text, p, broken) ← plainScalar s.cursor.rest.length s.inFlow (s.indent + 1) s.cursor [] {}
  return { s.push (.scalar true (String.ofList text)) with cursor := p, keyAllowed := broken }

/-- Whether a plain scalar may start with `c` before `rest`. -/
def startsPlain (s : Scanner) (c : Char) (rest : List Char) : Bool :=
  (!isBlank c && !"-?:,[]\x7b\x7d#&*!|>'\"%@\x60".toList.contains c)
    || (c = '-' && !rest.head?.any isBlank)
    || (!s.inFlow && (c = '?' || c = ':') && !atGap rest)

/-- Scans the next token, with those that it brings about. -/
def next (s : Scanner) : Except Fault Scanner := do
  let s := s.skipGap s.cursor.rest.length
  let s ← s.dropStaleKeys
  let s := s.closeBlocks s.cursor.column
  match s.cursor.rest with
  | [] => s.endOfText
  | c :: rest =>
    if s.cursor.atMarker '-' then s.marker .documentStart
    else if s.cursor.atMarker '.' then s.marker .documentEnd
    else if c = '[' then s.openFlow .flowSequenceStart
    else if c = '\x7b' then s.openFlow .flowMappingStart
    else if c = ']' then s.closeFlow .flowSequenceEnd
    else if c = '\x7d' then s.closeFlow .flowMappingEnd
    else if c = ',' then s.flowEntry
    else if c = '-' && atGap rest then s.blockEntry
    else if c = '?' && (s.inFlow || atGap rest) then s.explicitKey
    else if c = ':' && (s.inFlow || atGap rest) then s.value
    else if c = '\'' then s.quoted false
    else if c = '"' then s.quoted true
    else if s.startsPlain c rest then s.plain
    else throw .malformed

/-! ## All tokens -/

/-- Takes the token at the front of the queue if it is settled, and otherwise scans on. -/
def advance (s : Scanner) : Except Fault (Option Token × Scanner) := do
  match s.queue with
  | [] => return (none, ← s.next)
  | t :: queue =>
    let s ← s.dropStaleKeys
    if s.frontMayBeKey then return (none, ← s.next)
    else return (some t, { s with queue, taken := s.taken + 1 })

/-- The tokens from here on, up to the end of the text or its first fault. -/
def deliver (fuel : Nat) (s : Scanner) : List Token :=
  match fuel, s.advance with
  | 0, _ | _, .error _ => []
  | fuel + 1, .ok (none, s) => s.deliver fuel
  | _ + 1, .ok (some .streamEnd, _) => [.streamEnd]
  | fuel + 1, .ok (some t, s) => t :: s.deliver fuel

end Scanner

/-- The tokens of a text up to its first fault. A character that may not stand in a file spoils all of it. -/
def tokens (text : String) : List Token :=
  if text.toList.all isAllowed then
    let chars := normalize text.toList
    ({ cursor := { rest := chars } } : Scanner).deliver (5 * chars.length + 8)
  else []

end TopicHealth.Yaml
