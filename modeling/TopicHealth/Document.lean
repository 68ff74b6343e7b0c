import TopicHealth.Duration.Human
import TopicHealth.Service
import TopicHealth.Text.Decimal

/-!
# Documents

A document is a tree of scalars, sequences and mappings. A scalar is a text of known type, or a plain one that
is read as whatever the place where it stands asks for. Records are read from a mapping, where unknown keys are
passed over and no known key may repeat, or from a tuple of their fields in order. A document is read from its
beginning on, so that of two faults the first decides.
-/

namespace TopicHealth

/-- A tree of configuration values. -/
inductive Document where
  /-- No value. -/
  | null
  | flag (value : Bool)
  | number (value : Binary64)
  /-- A text that is only ever a text. -/
  | text (value : String)
  /-- A scalar without quotes. -/
  | plain (value : String)
  | sequence (items : List Document)
  /-- A sequence that may also stand for the fields of a record in their order. -/
  | tuple (items : List Document)
  | mapping (entries : List (Document × Document))
  /-- Where a text broke off before the value was complete. -/
  | broken
deriving Inhabited

namespace Document

/-- Why a document does not hold the value asked for. -/
inductive Fault where
  | mismatch
  /-- A duration in the document is over the range by less than a second. -/
  | durationOverflow
deriving DecidableEq, Repr

/-- A way to read a value from a document. -/
abbrev Decoder (α : Type) := Document → Except Fault α

/-! ## Scalars -/

/-- A text; a plain scalar is the text as it is written. -/
def string : Decoder String
  | text s | plain s => .ok s
  | _ => .error .mismatch

/-- Whether a plain scalar stands for no value. -/
def isNullText (s : String) : Bool := ["", "~", "null", "Null", "NULL"].contains s

/-- A truth value; a plain scalar in lower or upper case or capitalized. -/
def bool : Decoder Bool
  | flag b => .ok b
  | plain s =>
    if ["true", "True", "TRUE"].contains s then .ok true
    else if ["false", "False", "FALSE"].contains s then .ok false
    else .error .mismatch
  | _ => .error .mismatch

/-- A plain scalar as a number: a finite decimal, an infinity or what is not a number. A plus sign may stand in
front of any but the last, and only once. -/
def plainNumber? (s : String) : Option Binary64 :=
  if [".nan", ".NaN", ".NAN"].contains s then some .nan
  else if ["-.inf", "-.Inf", "-.INF"].contains s then some (.infinity true)
  else if [".inf", ".Inf", ".INF", "+.inf", "+.Inf", "+.INF"].contains s then some (.infinity false)
  else
    let body := match s.toList with
      | '+' :: '+' :: _ | '+' :: '-' :: _ => []
      | body => body
    (Text.number? body).filter Binary64.isFinite

/-- A number. -/
def float : Decoder Binary64
  | number x => .ok x
  | plain s => match plainNumber? s with
    | some x => .ok x
    | none => .error .mismatch
  | _ => .error .mismatch

/-- A duration, written as a text. -/
def duration : Decoder Duration := fun d => do
  match Duration.Human.parse (← string d) with
  | .ok span => return span
  | .error .malformed => throw .mismatch
  | .error .overflow => throw .durationOverflow

/-- A service by its name, or by a mapping of its name to no value. -/
def service : Decoder Service := fun d => do
  let name ← match d with
    | mapping [(text name, null)] => pure name
    | d => string d
  match Service.ofName? name with
  | some s => return s
  | none => throw .mismatch

/-! ## Structure -/

/-- A value that may be absent. -/
def option {α : Type} (decoder : Decoder α) : Decoder (Option α)
  | null => .ok none
  | plain s => if isNullText s then .ok none else some <$> decoder (plain s)
  | d => some <$> decoder d

/-- A list; an empty plain scalar is an empty list. -/
def list {α : Type} (decoder : Decoder α) : Decoder (List α)
  | sequence items | tuple items => items.mapM decoder
  | plain "" => .ok []
  | _ => .error .mismatch

/-- The fields of a record, each read into what has been read of it so far: those of a mapping by their names, and
those of a tuple by their places among `names`. An empty plain scalar has none. -/
def record {σ : Type} (names : List String) (read : σ → String → Decoder σ) (start : σ) : Decoder σ
  | mapping entries => entries.foldlM (fun s (key, value) => do read s (← string key) value) start
  | tuple items => do
    let s ← (names.zip items).foldlM (fun s (name, value) => read s name value) start
    if items.length ≤ names.length then return s else throw .mismatch
  | plain "" => .ok start
  | _ => .error .mismatch

/-- Decodes one field into its place, which must still be free. -/
def fill {α : Type} (place : Option α) (decoder : Decoder α) (value : Document) : Except Fault (Option α) :=
  match place with
  | some _ => .error .mismatch
  | none => some <$> decoder value

/-- The value of a field that has to be there. -/
def required {α : Type} : Option α → Except Fault α
  | some a => .ok a
  | none => .error .mismatch

end Document

end TopicHealth
