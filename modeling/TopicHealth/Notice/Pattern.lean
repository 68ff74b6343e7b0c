import TopicHealth.Text.Alphabet
import TopicHealth.Text.Hexadecimal

/-!
# Patterns

The syntax of regular expressions, as far as a filter needs it: `Pattern.isWellFormed` tells whether a text is one.
Letter case, word boundaries and classes of characters by their properties are only known for ASCII: a pattern that
asks for them in Unicode is not well formed.
-/

namespace TopicHealth.Pattern

/-- What the flags say at a place of a pattern. -/
structure Mode where
  /-- Letter case makes no difference. -/
  caseless : Bool := false
  /-- Characters are those of Unicode. -/
  unicode : Bool := true

namespace Mode

/-- Whether letter case is known as far as it matters. -/
def knowsCase (m : Mode) : Bool := !(m.caseless && m.unicode)

/-- Whether a character is one. -/
def has (m : Mode) (c : Char) : Bool := m.unicode || c.toNat < 128

/-- Turns a flag on or off. -/
def set (m : Mode) (flag : Char) (on : Bool) : Mode :=
  if flag = 'i' then { m with caseless := on }
  else if flag = 'u' then { m with unicode := on }
  else m

end Mode

/-! ## Escapes -/

/-- What an escape stands for. -/
inductive Escape where
  | literal (c : Char)
  /-- One of several characters. -/
  | kind
  /-- A place between two characters. -/
  | place

/-- Reads what follows a backslash. -/
def escape? (m : Mode) : List Char → Option (Escape × List Char)
  | [] => none
  | c :: rest =>
    match c with
    | 'x' => (Text.hexChar? 2 rest).map fun (c, rest) => (.literal c, rest)
    | 'u' => (Text.hexChar? 4 rest).map fun (c, rest) => (.literal c, rest)
    | 'U' => (Text.hexChar? 8 rest).map fun (c, rest) => (.literal c, rest)
    | 'a' => some (.literal '\x07', rest)
    | 't' => some (.literal '\t', rest)
    | 'n' => some (.literal '\n', rest)
    | 'v' => some (.literal '\x0b', rest)
    | 'f' => some (.literal '\x0c', rest)
    | 'r' => some (.literal '\r', rest)
    | 'A' | 'z' => some (.place, rest)
    | 'b' | 'B' | '<' | '>' => if m.unicode then none else some (.place, rest)
    | 'd' | 's' | 'w' => if m.unicode then none else some (.kind, rest)
    | c => if c.toNat < 128 && !c.isAlphanum then some (.literal c, rest) else none

/-! ## Sets of characters -/

/-- The names of the classes of ASCII characters. -/
def className : List String :=
  ["alnum", "alpha", "ascii", "blank", "cntrl", "digit", "graph", "lower", "print", "punct", "space", "upper",
    "word", "xdigit"]

/-- Reads a named class after its opening bracket. -/
def namedClass? (m : Mode) : List Char → Option (List Char)
  | ':' :: rest =>
    let (negated, rest) := match rest with
      | '^' :: rest => (true, rest)
      | rest => (false, rest)
    let name := rest.takeWhile (· ≠ ':')
    match rest.drop name.length with
    | ':' :: ']' :: rest =>
      if className.contains (String.ofList name) && (m.unicode || !negated) then some rest else none
    | _ => none
  | _ => none

/-- Passes the start of a set after its opening bracket: a circumflex negates it, and dashes and a closing bracket
at first stand for themselves. -/
def setStart? (m : Mode) (text : List Char) : Option (List Char) :=
  let members (rest : List Char) : List Char :=
    match rest with
    | ']' :: rest => rest
    | rest => rest.dropWhile (· = '-')
  match text with
  | '^' :: rest => if m.unicode then some (members rest) else none
  | rest => some (members rest)

/-- Reads a member of a set, or an end of a range. -/
def member? (m : Mode) : List Char → Option (Escape × List Char)
  | [] => none
  | '\\' :: rest => (escape? m rest).filter fun
    | (.literal c, _) => m.has c
    | (.kind, _) => true
    | (.place, _) => false
  | c :: rest => if m.has c then some (.literal c, rest) else none

/-- Reads the members of a set and the brackets that close it, with sets inside to a given depth. -/
def set? (fuel : Nat) (m : Mode) (depth : Nat) (text : List Char) : Option (List Char) :=
  match fuel, text with
  | 0, _ => none
  | fuel + 1, '[' :: rest =>
    match namedClass? m rest with
    | some rest => set? fuel m depth rest
    | none => (setStart? m rest).bind (set? fuel m (depth + 1))
  | fuel + 1, ']' :: rest => if depth = 0 then some rest else set? fuel m (depth - 1) rest
  | fuel + 1, '&' :: '&' :: rest | fuel + 1, '-' :: '-' :: rest | fuel + 1, '~' :: '~' :: rest =>
    set? fuel m depth rest
  | fuel + 1, text => do
    let (first, rest) ← member? m text
    match rest with
    | '-' :: ']' :: _ | '-' :: '-' :: _ => set? fuel m depth rest
    | '-' :: rest =>
      let (last, rest) ← member? m rest
      match first, last with
      | .literal a, .literal b => if a ≤ b then set? fuel m depth rest else none
      | _, _ => none
    | rest => set? fuel m depth rest

/-! ## Groups -/

/-- Reads the name of a group and the bracket after it. -/
def groupName? (text : List Char) : Option (List Char × List Char) :=
  let name := text.takeWhile (· ≠ '>')
  match name, text.drop name.length with
  | first :: more, _ :: rest =>
    if (first = '_' || Text.isAlphabetic first)
        && more.all fun c => Text.isAlphanumeric c || "_.[]".toList.contains c then
      some (name, rest)
    else none
  | _, _ => none

/-- Reads flags up to the colon or the parenthesis that ends them. Those after a dash are turned off. None may
repeat, a dash may not come last, and a parenthesis may not come first. -/
def flags? (m : Mode) (seen : List Char) : List Char → Option (Mode × List Char)
  | [] => none
  | c :: rest =>
    if c = ':' || c = ')' then
      if seen.head? = some '-' || (c = ')' && seen.isEmpty) then none else some (m, c :: rest)
    else if seen.contains c || !"imsUuRx-".toList.contains c then none
    else flags? (m.set c (!seen.contains '-')) (c :: seen) rest

/-! ## Patterns -/

/-- Whether a pattern goes on well. `around` holds the modes outside of the open groups, `names` the names of the
groups so far, and `operand` tells whether something stands before that can be repeated. -/
def scan (fuel : Nat) (m : Mode) (around : List Mode) (names : List (List Char)) (operand : Bool)
    (text : List Char) : Bool :=
  match fuel, text with
  | _, [] => around.isEmpty
  | 0, _ => false
  | fuel + 1, '(' :: '?' :: 'P' :: '<' :: rest | fuel + 1, '(' :: '?' :: '<' :: rest =>
    match groupName? rest with
    | some (name, rest) => !names.contains name && scan fuel m (m :: around) (name :: names) false rest
    | none => false
  | fuel + 1, '(' :: '?' :: rest =>
    match flags? m [] rest with
    | some (inner, ':' :: rest) => scan fuel inner (m :: around) names false rest
    | some (later, _ :: rest) => scan fuel later around names false rest
    | _ => false
  | fuel + 1, '(' :: rest => scan fuel m (m :: around) names false rest
  | fuel + 1, ')' :: rest =>
    match around with
    | outer :: around => scan fuel outer around names true rest
    | [] => false
  | fuel + 1, '|' :: rest => scan fuel m around names false rest
  | fuel + 1, '*' :: '?' :: rest | fuel + 1, '+' :: '?' :: rest | fuel + 1, '?' :: '?' :: rest
  | fuel + 1, '*' :: rest | fuel + 1, '+' :: rest | fuel + 1, '?' :: rest =>
    operand && scan fuel m around names true rest
  | _ + 1, '\x7b' :: _ => false
  | fuel + 1, '[' :: rest =>
    match (setStart? m rest).bind (set? rest.length m 0) with
    | some rest => m.knowsCase && scan fuel m around names true rest
    | none => false
  | fuel + 1, '.' :: rest => m.unicode && scan fuel m around names true rest
  | fuel + 1, '^' :: rest | fuel + 1, '$' :: rest => scan fuel m around names true rest
  | fuel + 1, '\\' :: rest =>
    match escape? m rest with
    | some (.literal c, rest) => m.knowsCase && m.has c && scan fuel m around names true rest
    | some (_, rest) => scan fuel m around names true rest
    | none => false
  | fuel + 1, c :: rest => m.knowsCase && m.has c && scan fuel m around names true rest

/-- Whether a text is a pattern. -/
def isWellFormed (text : String) : Bool := scan text.length {} [] [] false text.toList

end TopicHealth.Pattern
