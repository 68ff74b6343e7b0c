import TopicHealth.Text.Hexadecimal
import TopicHealth.Yaml.Cursor

/-!
# Scalars

The texts of plain and of quoted scalars. A line end inside a scalar folds to a space, and more than one to the line
ends after the first.
-/

namespace TopicHealth.Yaml

/-! ## Plain scalars -/

/-- A part of a plain scalar without white space. In a flow collection it ends at a bracket or comma, and a
colon may not touch one. -/
def spanWord (inFlow : Bool) : List Char → Except Fault (List Char × List Char)
  | [] => .ok ([], [])
  | c :: rest =>
    if isBlank c || isBreak c then .ok ([], c :: rest)
    else if c = ':' && atGap rest then .ok ([], c :: rest)
    else if inFlow && c = ':' && rest.head?.any (",?[]\x7b\x7d".toList.contains ·) then .error .malformed
    else if inFlow && ",[]\x7b\x7d".toList.contains c then .ok ([], c :: rest)
    else (spanWord inFlow rest).map fun (word, rest) => (c :: word, rest)

/-- A plain scalar, from `text` and the white space `gap` on. It goes on over line ends while lines stay deeper
than the block around it. Also tells whether the scalar ran up to a line end. -/
def plainScalar (fuel : Nat) (inFlow : Bool) (indent : Int) (p : Cursor) (text : List Char) (gap : Gap) :
    Except Fault (List Char × Cursor × Bool) :=
  match fuel with
  | 0 => .ok (text, p, gap.broken)
  | fuel + 1 => do
    if p.atBoundary || p.rest.head? = some '#' then return (text, p, gap.broken)
    let (word, rest) ← spanWord inFlow p.rest
    let text := if word.isEmpty then text else text ++ gap.text ++ word
    let gap := if word.isEmpty then gap else {}
    let p := p.skipTo rest
    if rest.isEmpty || !atGap rest then return (text, p, gap.broken)
    let (p, gap) ← p.gap rest.length gap fun q => (q.column : Int) < indent
    if !inFlow && (p.column : Int) < indent then return (text, p, gap.broken)
    plainScalar fuel inFlow indent p text gap

/-! ## Quoted scalars -/

/-- The character that a number of hexadecimal digits writes. -/
def hexChar (width : Nat) (rest : List Char) : Except Fault (Char × List Char) :=
  match Text.hexChar? width rest with
  | some result => .ok result
  | none => .error .malformed

/-- The character that an escape stands for. -/
def escape : List Char → Except Fault (Char × List Char)
  | '0' :: rest => .ok ('\x00', rest)
  | 'a' :: rest => .ok ('\x07', rest)
  | 'b' :: rest => .ok ('\x08', rest)
  | 't' :: rest | '\t' :: rest => .ok ('\t', rest)
  | 'n' :: rest => .ok ('\n', rest)
  | 'v' :: rest => .ok ('\x0b', rest)
  | 'f' :: rest => .ok ('\x0c', rest)
  | 'r' :: rest => .ok ('\r', rest)
  | 'e' :: rest => .ok ('\x1b', rest)
  | ' ' :: rest => .ok (' ', rest)
  | '"' :: rest => .ok ('"', rest)
  | '/' :: rest => .ok ('/', rest)
  | '\\' :: rest => .ok ('\\', rest)
  | 'N' :: rest => .ok ('\u0085', rest)
  | '_' :: rest => .ok ('\u00a0', rest)
  | 'L' :: rest => .ok ('\u2028', rest)
  | 'P' :: rest => .ok ('\u2029', rest)
  | 'x' :: rest => hexChar 2 rest
  | 'u' :: rest => hexChar 4 rest
  | 'U' :: rest => hexChar 8 rest
  | _ => .error .malformed

/-- How a part of a quoted scalar ends. -/
inductive PartEnd where
  | gap
  | quote
  /-- An escaped line end, which joins the lines. -/
  | joined

/-- A part of a quoted scalar without white space. -/
def spanQuoted (fuel : Nat) (double : Bool) (rest : List Char) : Except Fault (List Char × PartEnd × List Char) :=
  match fuel, rest with
  | _, [] | 0, _ => .ok ([], .gap, [])
  | fuel + 1, c :: rest =>
    if isBlank c || isBreak c then .ok ([], .gap, c :: rest)
    else if double && c = '"' then .ok ([], .quote, rest)
    else if double && c = '\\' then
      match rest with
      | '\n' :: rest | '\u2028' :: rest | '\u2029' :: rest => .ok ([], .joined, rest)
      | rest => do
        let (c, rest) ← escape rest
        let (text, stop, rest) ← spanQuoted fuel double rest
        return (c :: text, stop, rest)
    else match double, c, rest with
      | false, '\'', '\'' :: rest => do
        let (text, stop, rest) ← spanQuoted fuel double rest
        return ('\'' :: text, stop, rest)
      | false, '\'', rest => .ok ([], .quote, rest)
      | _, c, rest => do
        let (text, stop, rest) ← spanQuoted fuel double rest
        return (c :: text, stop, rest)

/-- A quoted scalar, from after its opening quote on. -/
def quotedScalar (fuel : Nat) (double : Bool) (p : Cursor) (text : List Char) :
    Except Fault (List Char × Cursor) :=
  match fuel with
  | 0 => .error .malformed
  | fuel + 1 => do
    if p.atBoundary || p.rest.isEmpty then throw .malformed
    let (part, stop, rest) ← spanQuoted p.rest.length double p.rest
    let p := p.skipTo rest
    match stop with
    | .quote => return (text ++ part, p)
    | .joined =>
      let (p, gap) ← p.gap rest.length { broken := true } fun _ => false
      quotedScalar fuel double p (text ++ part ++ gap.text)
    | .gap =>
      let (p, gap) ← p.gap rest.length {} fun _ => false
      quotedScalar fuel double p (text ++ part ++ gap.text)

end TopicHealth.Yaml
