/-!
# Parts of a text

A part of a text is given by the offsets of its two ends, which count the bytes of the characters before them. An
offset inside a character marks no part.
-/

namespace TopicHealth.Text

/-- How many bytes a text takes up. -/
def byteLength : List Char → Nat
  | [] => 0
  | c :: rest => c.utf8Size + byteLength rest

/-- A text from an offset on. -/
def dropBytes? : List Char → Nat → Option (List Char)
  | text, 0 => some text
  | [], _ + 1 => none
  | c :: rest, n + 1 => if c.utf8Size ≤ n + 1 then dropBytes? rest (n + 1 - c.utf8Size) else none

/-- A text up to an offset. -/
def takeBytes? : List Char → Nat → Option (List Char)
  | _, 0 => some []
  | [], _ + 1 => none
  | c :: rest, n + 1 =>
    if c.utf8Size ≤ n + 1 then (takeBytes? rest (n + 1 - c.utf8Size)).map (c :: ·) else none

/-- The part of a text between two offsets. -/
def slice? (text : List Char) (start stop : Nat) : Option (List Char) :=
  (dropBytes? text start).bind (takeBytes? · (stop - start))

end TopicHealth.Text
