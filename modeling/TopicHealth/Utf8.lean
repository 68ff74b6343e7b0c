import TopicHealth.Power

/-!
# UTF-8

Text as bytes. `encode` writes each character in its shortest form, `decode` reads well-formed bytes back and
otherwise tells where the first ill-formed sequence starts and how many of its bytes a reader should skip.
-/

namespace TopicHealth.Utf8

/-- Why bytes are not UTF-8. -/
inductive Fault where
  /-- The `length` bytes at `index` begin no character. -/
  | malformed (length index : Nat)
  /-- The bytes from `index` on begin a character but end before it does. -/
  | truncated (index : Nat)
deriving DecidableEq, Repr

/-- The text of a fault. -/
def Fault.message : Fault → String
  | .malformed length index => s!"invalid utf-8 sequence of {length} bytes from index {index}"
  | .truncated index => s!"incomplete utf-8 byte sequence from index {index}"

/-- The bytes of a character. -/
def encodeChar (c : Char) : List UInt8 :=
  let n := c.toNat
  let tail (k : Nat) : UInt8 := UInt8.ofNat (0x80 + n / 64 ^ k % 64)
  if n < 0x80 then [UInt8.ofNat n]
  else if n < 0x800 then [UInt8.ofNat (0xC0 + n / 64), tail 0]
  else if n < 0x10000 then [UInt8.ofNat (0xE0 + n / 64 ^ 2), tail 1, tail 0]
  else [UInt8.ofNat (0xF0 + n / 64 ^ 3), tail 2, tail 1, tail 0]

/-- The bytes of a text. -/
def encode (text : List Char) : List UInt8 :=
  text.flatMap encodeChar

/-- Whether a byte may follow the first one of a character. -/
def isTail (b : UInt8) : Bool := 0x80 ≤ b && b ≤ 0xBF

/-- Whether `b` may be the second byte of a character whose first is `a`. This rules out characters written too
long, surrogates, and numbers over the last character. -/
def isSecond (a b : UInt8) : Bool :=
  if a = 0xE0 then 0xA0 ≤ b && b ≤ 0xBF
  else if a = 0xED then 0x80 ≤ b && b ≤ 0x9F
  else if a = 0xF0 then 0x90 ≤ b && b ≤ 0xBF
  else if a = 0xF4 then 0x80 ≤ b && b ≤ 0x8F
  else isTail b

/-- The character of two bytes. -/
def char2 (a b : UInt8) : Char :=
  Char.ofNat ((a.toNat - 0xC0) * 64 + (b.toNat - 0x80))

/-- The character of three bytes. -/
def char3 (a b c : UInt8) : Char :=
  Char.ofNat ((a.toNat - 0xE0) * 64 ^ 2 + (b.toNat - 0x80) * 64 + (c.toNat - 0x80))

/-- The character of four bytes. -/
def char4 (a b c d : UInt8) : Char :=
  Char.ofNat ((a.toNat - 0xF0) * 64 ^ 3 + (b.toNat - 0x80) * 64 ^ 2 + (c.toNat - 0x80) * 64 + (d.toNat - 0x80))

/-- Reads the bytes that stand at `index` of the whole text. -/
def decodeAt (index : Nat) : List UInt8 → Except Fault (List Char)
  | [] => .ok []
  | a :: rest =>
    if a < 0x80 then (decodeAt (index + 1) rest).map (Char.ofNat a.toNat :: ·)
    else if 0xC2 ≤ a && a ≤ 0xDF then
      match rest with
      | [] => .error (.truncated index)
      | b :: rest =>
        if isTail b then (decodeAt (index + 2) rest).map (char2 a b :: ·)
        else .error (.malformed 1 index)
    else if 0xE0 ≤ a && a ≤ 0xEF then
      match rest with
      | [] => .error (.truncated index)
      | b :: rest =>
        if isSecond a b then
          match rest with
          | [] => .error (.truncated index)
          | c :: rest =>
            if isTail c then (decodeAt (index + 3) rest).map (char3 a b c :: ·)
            else .error (.malformed 2 index)
        else .error (.malformed 1 index)
    else if 0xF0 ≤ a && a ≤ 0xF4 then
      match rest with
      | [] => .error (.truncated index)
      | b :: rest =>
        if isSecond a b then
          match rest with
          | [] => .error (.truncated index)
          | c :: rest =>
            if isTail c then
              match rest with
              | [] => .error (.truncated index)
              | d :: rest =>
                if isTail d then (decodeAt (index + 4) rest).map (char4 a b c d :: ·)
                else .error (.malformed 3 index)
            else .error (.malformed 2 index)
        else .error (.malformed 1 index)
    else .error (.malformed 1 index)

/-- Reads a text. -/
def decode (bytes : List UInt8) : Except Fault (List Char) :=
  decodeAt 0 bytes

end TopicHealth.Utf8
