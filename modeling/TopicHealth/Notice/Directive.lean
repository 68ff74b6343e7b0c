import TopicHealth.Notice
import TopicHealth.Notice.Pattern
import TopicHealth.Text.Alphabet
import TopicHealth.Text.Decimal
import TopicHealth.Text.Slice

/-!
# Directives

A directive sets a level for the notices that it concerns: those of the components whose names begin with its target,
in a span, with a field, each of them as far as it is given. It is written `target[span{field=value}]=level`.

The marks of a directive are looked for in its text without the blanks around it, but its parts are cut out of the text
as it stands. Blanks in front of a directive so move its parts, and where a part would then begin or end inside a
character it cannot be cut out at all.
-/

namespace TopicHealth

/-- A field that is asked for, with any value or with a particular one. -/
structure FieldTest where
  name : String
  value : Option String := none
deriving DecidableEq, Repr

/-- A level for some notices. Without a level none of them is written. -/
structure Directive where
  target : Option String := none
  span : Option String := none
  field : Option FieldTest := none
  level : Option Level := some .trace
deriving DecidableEq, Repr

namespace Directive

/-- Why a text is no directive. -/
inductive Fault where
  | malformed
  /-- A part begins or ends inside a character. -/
  | cutCharacter
deriving DecidableEq, Repr

/-! ## Reading -/

/-- The number that a text of digits writes, with or without a plus sign. -/
def number? (text : String) : Option Nat :=
  let digits := match text.toList with
    | '+' :: digits => digits
    | digits => digits
  if digits.isEmpty || !digits.all Char.isDigit then none else some (Text.decimal digits)

/-- A level by its name, in upper or lower case, or by its number. -/
def level? (text : String) : Option (Option Level) :=
  match number? text, text.toLower with
  | some 0, _ | _, "off" => some none
  | some 1, _ | _, "error" => some (some .error)
  | some 2, _ | _, "warn" => some (some .warn)
  | some 3, _ | _, "info" => some (some .info)
  | some 4, _ | _, "debug" => some (some .debug)
  | some 5, _ | _, "trace" => some (some .trace)
  | _, _ => none

/-- The part of a text between two offsets. -/
def cut (text : List Char) (start stop : Nat) : Except Fault String :=
  match Text.slice? text start stop with
  | some part => .ok (String.ofList part)
  | none => .error .cutCharacter

/-- A level that stands from an offset on; every level if there is none. -/
def assigned (text : List Char) (start : Nat) : Except Fault (Option Level) :=
  match Text.dropBytes? text start with
  | none => .error .cutCharacter
  | some [] => .ok (some .trace)
  | some name => match level? (String.ofList name) with
    | some level => .ok level
    | none => .error .malformed

/-- Whether a text is a number that is no pattern: one with a plus sign. -/
def isSignedNumber (text : List Char) : Bool :=
  match text with
  | '+' :: size =>
    (Text.number? text).isSome || ["inf", "infinity", "nan"].contains (String.ofList size).toLower
  | _ => false

/-- Splits a text at a mark. -/
def splitAt (mark : Char) : List Char → List (List Char)
  | [] => [[]]
  | c :: rest =>
    if c = mark then [] :: splitAt mark rest
    else match splitAt mark rest with
      | [] => [[c]]
      | part :: parts => (c :: part) :: parts

/-- Reads what stands between braces: the name of a field, and a number or a pattern for its value. What follows a
second equals sign is passed over. -/
def fieldTest (text : String) : Except Fault FieldTest :=
  match splitAt '=' text.toList with
  | [] | [[]] => .error .malformed
  | [name] => .ok { name := String.ofList name }
  | name :: value :: _ =>
    if isSignedNumber value || Pattern.isWellFormed (String.ofList value) then
      .ok { name := String.ofList name, value := some (String.ofList value) }
    else .error .malformed

/-- Reads what follows the closing bracket of a directive, from an offset on: a level or nothing. -/
def closing (text : List Char) (d : Directive) (offset : Nat) : List Char → Except Fault Directive
  | [] => .ok d
  | '=' :: _ => do return { d with level := ← assigned text (offset + 1) }
  | _ => .error .malformed

/-- Reads what follows the opening bracket of a directive, from an offset on. -/
def bracketed (text : List Char) (d : Directive) (start : Nat) (rest : List Char) : Except Fault Directive := do
  let name := rest.takeWhile fun c => c ≠ ']' && c ≠ '\x7b'
  let stop := start + Text.byteLength name
  match rest.drop name.length with
  | ']' :: rest => closing text { d with span := some (← cut text start stop) } (stop + 1) rest
  | '\x7b' :: rest =>
    let span ← cut text start stop
    let field := rest.takeWhile (· ≠ '\x7d')
    let fieldStop := stop + 1 + Text.byteLength field
    match rest.drop field.length with
    | _ :: rest =>
      let field ← fieldTest (← cut text (stop + 1) fieldStop)
      match rest with
      | ']' :: rest =>
        let span := if span.isEmpty then none else some span
        closing text { d with span, field := some field } (fieldStop + 2) rest
      | _ => throw .malformed
    | [] => throw .malformed
  | _ => throw .malformed

/-- Whether a directive without brackets in front may begin with a character. -/
def isStart (c : Char) : Bool := Text.isAlphanumeric c || c = '-' || c = ':' || c = '_'

/-- Reads a directive. One without a level lets everything through, and a level alone concerns all notices. -/
def parse (text : List Char) : Except Fault Directive := do
  match Text.trimBlank text with
  | [] => throw .malformed
  | '[' :: rest => bracketed text {} 1 rest
  | first :: rest =>
    if !isStart first then throw .malformed
    let name := (first :: rest).takeWhile fun c => c ≠ '=' && c ≠ '['
    let stop := Text.byteLength name
    match (first :: rest).drop name.length with
    | [] => match level? (String.ofList text) with
      | some level => return { level }
      | none => return { target := some (String.ofList text) }
    | '=' :: _ =>
      let target ← cut text 0 stop
      return { target := some target, level := ← assigned text (stop + 1) }
    | _ :: rest => bracketed text { target := some (← cut text 0 stop) } (stop + 1) rest

/-! ## Notices -/

/-- Whether a notice has a field; its message is one. -/
def hasField (n : Notice) (name : String) : Bool :=
  name = "message" || n.fields.any fun field => field.1 = name

/-- Whether a directive concerns a notice. No notice is in a span, and only the fields of spans have their values
compared. -/
def concerns (d : Directive) (n : Notice) : Bool :=
  d.span.isNone
    && d.field.all (fun field => field.value.isNone && hasField n field.name)
    && d.target.all fun target => target.toList.isPrefixOf n.target.toList

/-- Compares how closely two directives fit a notice that both concern: the longer target does, then one that asks
for a field, and of two that do the one with the later name. -/
def precision (d e : Directive) : Ordering :=
  (compare (d.target.map String.length) (e.target.map String.length)).then
    (compare (d.field.map FieldTest.name) (e.field.map FieldTest.name))

end Directive

end TopicHealth
