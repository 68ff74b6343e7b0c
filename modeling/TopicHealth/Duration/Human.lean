import TopicHealth.Duration
import TopicHealth.Text.Blank

/-!
# Durations in configuration files

A duration is written as a sum of numbers with units, such as `1h 30m` or `2.5s`. Blanks may stand anywhere but
inside a unit. Every intermediate number is a 64-bit word, and a fraction has to come out exact: in nanoseconds
for units up to the minute, in whole seconds for longer ones. A nanosecond has no fractions.
-/

namespace TopicHealth.Duration.Human

/-- Why a text is no duration. -/
inductive Fault where
  /-- The text is not a sum of numbers with units, or a number is over its range or not exact. -/
  | malformed
  /-- The seconds are at their maximum and the nanoseconds make up one second more. -/
  | overflow
deriving DecidableEq, Repr

/-- A unit as a number of nanoseconds, or as a number of seconds for the units from the second on. -/
inductive Scale where
  | nanos (perUnit : Nat)
  | second
  | minute
  | secs (perUnit : Nat)
deriving DecidableEq, Repr

/-- The unit of a name. A month is 30.44 days and a year is 365.25. -/
def scale? : String → Option Scale
  | "ns" | "nsec" | "nanos" => some (.nanos 1)
  | "us" | "usec" | "µs" => some (.nanos 1000)
  | "ms" | "msec" | "millis" => some (.nanos 1000000)
  | "s" | "sec" | "secs" | "second" | "seconds" => some .second
  | "m" | "min" | "mins" | "minute" | "minutes" => some .minute
  | "h" | "hr" | "hrs" | "hour" | "hours" => some (.secs 3600)
  | "d" | "day" | "days" => some (.secs 86400)
  | "w" | "wk" | "wks" | "week" | "weeks" => some (.secs 604800)
  | "M" | "month" | "months" => some (.secs 2630016)
  | "y" | "yr" | "yrs" | "year" | "years" => some (.secs 31557600)
  | _ => none

/-- A number that has to fit into a 64-bit word. -/
def word (n : Nat) : Except Fault Nat :=
  if n < 2 ^ 64 then .ok n else .error .malformed

/-- The digits after a point, as a numerator and a power of ten. -/
structure Fraction where
  numerator : Nat
  denominator : Nat

/-- A fraction times a whole number, which must come out whole. -/
def Fraction.times (f : Fraction) (n : Nat) : Except Fault Nat := do
  let product ← word (f.numerator * n)
  if product % f.denominator = 0 then return product / f.denominator else throw .malformed

/-- Adds seconds and nanoseconds. The nanoseconds carry when they are over one second; when they are exactly
one, the carry has no room at the greatest number of seconds. -/
def accumulate (total : Duration) (secs nanos : Nat) : Except Fault Duration := do
  let nanos ← word (total.nanos + nanos)
  let carry := if 10 ^ 9 < nanos then nanos / 10 ^ 9 else 0
  let nanos := if 10 ^ 9 < nanos then nanos % 10 ^ 9 else nanos
  let secs ← word (secs + carry)
  let secs ← word (total.secs + secs)
  match ofParts? (secs + nanos / 10 ^ 9) (nanos % 10 ^ 9) with
  | some d => return d
  | none => throw .overflow

/-- Adds a number of a unit. -/
def addItem (total : Duration) (whole : Nat) (fraction : Option Fraction) (scale : Scale) :
    Except Fault Duration := do
  let total ← match scale with
    | .nanos perUnit => do accumulate total 0 (← word (whole * perUnit))
    | .second => accumulate total whole 0
    | .minute => do accumulate total (← word (whole * 60)) 0
    | .secs perUnit => do accumulate total (← word (whole * perUnit)) 0
  match fraction, scale with
  | none, _ => return total
  | some _, .nanos 1 => throw .malformed
  | some f, .nanos perUnit => accumulate total 0 (← f.times perUnit)
  | some f, .second => accumulate total 0 (← f.times (10 ^ 9))
  | some f, .minute => accumulate total 0 (← f.times (60 * 10 ^ 9))
  | some f, .secs perUnit => accumulate total (← f.times perUnit) 0

/-- Whether a character may stand in a unit. -/
def isUnitChar (c : Char) : Bool := c.isAlpha || c = 'µ'

/-- Whether a character may stand in a number. -/
def isNumberChar (c : Char) : Bool := c.isDigit || Text.isBlank c

/-- Splits digits, and the blanks between them, off a text. -/
def spanDigits (text : List Char) : List Char × List Char :=
  ((text.takeWhile isNumberChar).filter Char.isDigit, text.dropWhile isNumberChar)

/-- The fraction that follows a number, if a point does. -/
def fraction (text : List Char) : Except Fault (Option Fraction × List Char) :=
  match text with
  | '.' :: rest => do
    let (digits, rest) := spanDigits rest
    if digits.isEmpty then throw .malformed
    let numerator ← word (Text.decimal digits)
    let denominator ← word (10 ^ digits.length)
    return (some ⟨numerator, denominator⟩, rest)
  | _ => return (none, text)

/-- Adds the items of a text to a total; `fuel` bounds their number. -/
def sum (fuel : Nat) (total : Duration) (text : List Char) : Except Fault Duration :=
  match fuel, text.dropWhile Text.isBlank with
  | _, [] => .ok total
  | 0, _ => .error .malformed
  | fuel + 1, first :: rest => do
    if !first.isDigit then throw .malformed
    let (digits, rest) := spanDigits (first :: rest)
    let whole ← word (Text.decimal digits)
    let (fraction, rest) ← fraction rest
    let unit := rest.takeWhile isUnitChar
    let rest := rest.dropWhile isUnitChar
    if rest.head?.any fun c => !isNumberChar c then throw .malformed
    match scale? (String.ofList unit) with
    | none => throw .malformed
    | some scale => sum fuel (← addItem total whole fraction scale) rest

/-- Reads a duration: a lone zero, or at least one item. -/
def parse (text : String) : Except Fault Duration :=
  if text = "0" then .ok zero
  else if text.toList.all Text.isBlank then .error .malformed
  else sum text.length zero text.toList

end TopicHealth.Duration.Human
