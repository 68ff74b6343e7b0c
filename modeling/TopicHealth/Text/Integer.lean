import TopicHealth.Power
import TopicHealth.Text.Blank

/-!
# Integers in texts

A decimal integer with an optional sign, in the range of 64 bits. A text is read from the left, so that of two
faults the first decides.
-/

namespace TopicHealth.Text

/-- Why a text is no integer. -/
inductive IntegerFault where
  | empty
  | invalidDigit
  | tooLarge
  | tooSmall
deriving DecidableEq, Repr

def IntegerFault.message : IntegerFault → String
  | empty => "cannot parse integer from empty string"
  | invalidDigit => "invalid digit found in string"
  | tooLarge => "number too large to fit in target type"
  | tooSmall => "number too small to fit in target type"

/-- The greatest size of a negative or a positive integer. -/
def integerBound (negative : Bool) : Nat := if negative then 2 ^ 63 else 2 ^ 63 - 1

/-- Reads digits after a number that has been read already. -/
def integerDigits (negative : Bool) (size : Nat) : List Char → Except IntegerFault Int
  | [] => .ok (if negative then -size else size)
  | c :: rest =>
    if !c.isDigit then .error .invalidDigit
    else if integerBound negative < size * 10 + digitValue c then
      .error (if negative then .tooSmall else .tooLarge)
    else integerDigits negative (size * 10 + digitValue c) rest

/-- Reads an integer. -/
def integer : List Char → Except IntegerFault Int
  | [] => .error .empty
  | ['+'] | ['-'] => .error .invalidDigit
  | '-' :: rest => integerDigits true 0 rest
  | '+' :: rest => integerDigits false 0 rest
  | text => integerDigits false 0 text

end TopicHealth.Text
