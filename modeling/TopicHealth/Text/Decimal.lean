import TopicHealth.Binary
import TopicHealth.Text.Blank

/-!
# Decimal numbers in texts

Digits with a point anywhere among them and a power of ten, read as the nearest binary number.
-/

namespace TopicHealth.Text

/-- Splits the decimal digits off a text. -/
def spanDigits (s : List Char) : List Char × List Char :=
  (s.takeWhile Char.isDigit, s.dropWhile Char.isDigit)

/-- The sign of a number and the text after it. -/
def spanSign : List Char → Bool × List Char
  | '-' :: rest => (true, rest)
  | '+' :: rest => (false, rest)
  | rest => (false, rest)

/-- The power of ten at the end of a number; none if what stands there is no power of ten. -/
def exponent? : List Char → Option Int
  | [] => some 0
  | e :: rest =>
    if e = 'e' || e = 'E' then
      let (negative, rest) := spanSign rest
      let (digits, rest) := spanDigits rest
      if digits.isEmpty || !rest.isEmpty then none
      else some (if negative then -(decimal digits : Int) else decimal digits)
    else none

/-- A decimal number, with or without a sign. -/
def number? (s : List Char) : Option Binary64 :=
  let (negative, s) := spanSign s
  let (whole, s) := spanDigits s
  let (places, s) := match s with
    | '.' :: s => spanDigits s
    | _ => ([], s)
  if whole.isEmpty && places.isEmpty then none
  else (exponent? s).map fun e => .ofDecimal negative (decimal (whole ++ places)) (e - places.length)

end TopicHealth.Text
