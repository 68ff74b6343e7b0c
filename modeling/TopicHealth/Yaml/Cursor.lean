/-!
# Positions in a text

The characters of YAML, a cursor that walks over them with its line and column, and the white space that is folded
inside scalars.
-/

namespace TopicHealth.Yaml

/-- The input is not in the covered part of YAML. -/
inductive Fault where
  | malformed
deriving DecidableEq, Repr

/-! ## Characters -/

def isBlank (c : Char) : Bool := c = ' ' || c = '\t'

/-- Whether a character ends a line. Carriage returns and next-line characters are line feeds by then. -/
def isBreak (c : Char) : Bool := c = '\n' || c = '\u2028' || c = '\u2029'

/-- Whether the text goes on with a blank or a line end, or not at all. -/
def atGap : List Char → Bool
  | [] => true
  | c :: _ => isBlank c || isBreak c

/-- Whether a character may stand in a file. -/
def isAllowed (c : Char) : Bool :=
  let n := c.toNat
  n = 0x09 || n = 0x0A || n = 0x0D || (0x20 ≤ n && n ≤ 0x7E) || n = 0x85 || (0xA0 ≤ n && n ≤ 0xD7FF)
    || (0xE000 ≤ n && n ≤ 0xFFFD) || 0x10000 ≤ n

/-- Writes every line end but the separators of lines and paragraphs as a line feed. -/
def normalize : List Char → List Char
  | [] => []
  | '\r' :: '\n' :: rest => '\n' :: normalize rest
  | c :: rest => (if c = '\r' || c = '\u0085' then '\n' else c) :: normalize rest

/-! ## Cursors -/

/-- The text that is left and where it starts. -/
structure Cursor where
  rest : List Char
  index : Nat := 0
  line : Nat := 0
  column : Nat := 0

namespace Cursor

/-- Passes one character. -/
def next (p : Cursor) : Cursor :=
  match p.rest with
  | [] => p
  | c :: rest =>
    if isBreak c then ⟨rest, p.index + 1, p.line + 1, 0⟩ else ⟨rest, p.index + 1, p.line, p.column + 1⟩

/-- Passes a number of characters. -/
def skip (p : Cursor) : Nat → Cursor
  | 0 => p
  | n + 1 => p.next.skip n

/-- Passes characters up to a suffix of the text. -/
def skipTo (p : Cursor) (suffix : List Char) : Cursor := p.skip (p.rest.length - suffix.length)

/-- Whether a line starts here with the given three characters and a gap. -/
def atMarker (p : Cursor) (mark : Char) : Bool :=
  p.column = 0 && p.rest.take 3 = [mark, mark, mark] && atGap (p.rest.drop 3)

/-- Whether a document starts or ends here. -/
def atBoundary (p : Cursor) : Bool := p.atMarker '-' || p.atMarker '.'

end Cursor

/-! ## White space inside scalars -/

/-- The white space between two parts of a scalar: the blanks on one line, or the line ends that fold. -/
structure Gap where
  blanks : List Char := []
  /-- The first line end, once one was met. -/
  first : Option Char := none
  /-- The line ends after the first. -/
  more : List Char := []
  /-- Whether a line has ended in the gap. -/
  broken : Bool := false

/-- One line end folds to a space; of several, the first is dropped. -/
def Gap.text (g : Gap) : List Char :=
  if g.broken then
    match g.first with
    | some '\n' => if g.more.isEmpty then [' '] else g.more
    | some c => c :: g.more
    | none => g.more
  else g.blanks

/-- Passes blanks and line ends. In a plain scalar a tab may not stand where the indentation of a line is. -/
def Cursor.gap (fuel : Nat) (p : Cursor) (g : Gap) (refuseTab : Cursor → Bool) : Except Fault (Cursor × Gap) :=
  match fuel, p.rest with
  | _, [] | 0, _ => .ok (p, g)
  | fuel + 1, c :: _ =>
    if isBlank c then
      if g.broken && c = '\t' && refuseTab p then .error .malformed
      else p.next.gap fuel (if g.broken then g else { g with blanks := g.blanks ++ [c] }) refuseTab
    else if isBreak c then
      p.next.gap fuel
        (if g.broken then { g with more := g.more ++ [c] } else { first := some c, broken := true }) refuseTab
    else .ok (p, g)

end TopicHealth.Yaml
