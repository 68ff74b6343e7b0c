import TopicHealth.Binary
import TopicHealth.Utf8

/-!
# Wire codecs

A codec pairs a writer with a reader that returns the bytes it left. Words of 32 and 64 bits, lengths and tags
are written as varints: a byte up to 250 stands for itself, and 251, 252 and 253 announce 2, 4 and 8 bytes, the
lowest first. Writers use the shortest form; readers take any that fits. Records are built field after field
from `Codec.both`, and lists are a length followed by their items.
-/

namespace TopicHealth.Wire

/-- Why bytes could not be read. -/
inductive Fault where
  /-- The input ends inside a number or a flag. -/
  | endOfInput
  /-- A text is announced that is longer than the rest of the input. -/
  | shortText
  /-- A flag is neither zero nor one. -/
  | badFlag (byte : UInt8)
  /-- A text is not UTF-8. -/
  | badText (fault : Utf8.Fault)
  /-- A tag names no payload. -/
  | unknownTag (tag : Nat)
  /-- A 32-bit word is over its range. -/
  | wideWord (value : Nat)
  /-- The marker of a 128-bit number. -/
  | wideMarker
  /-- The marker that is kept for extensions. -/
  | reservedMarker
  /-- Bytes follow the event. -/
  | trailingBytes
deriving DecidableEq, Repr

/-- The kinds of faults that a reader of the wire tells apart. -/
inductive Fault.Kind where
  | io
  | invalidUtf8
  | invalidFlag
  | custom
deriving DecidableEq, Repr

namespace Fault

def kind : Fault → Kind
  | endOfInput | shortText => .io
  | badFlag _ => .invalidFlag
  | badText _ => .invalidUtf8
  | unknownTag _ | wideWord _ | wideMarker | reservedMarker | trailingBytes => .custom

/-- The text of a fault. -/
def message : Fault → String
  | endOfInput => "io error: unexpected end of file"
  | shortText => "io error: "
  | badFlag byte => s!"invalid u8 while decoding bool, expected 0 or 1, found {byte}"
  | badText fault => s!"string is not valid utf8: {fault.message}"
  | unknownTag tag => s!"invalid value: integer `{tag}`, expected variant index 0 <= i < 12"
  | wideWord value => s!"Invalid u32 {value}: you may have a version disagreement?"
  | wideMarker => "Invalid value (u128 range): you may have a version or configuration disagreement?"
  | reservedMarker =>
    "\nByte 255 is treated as an extension point; it should not be encoding anything.\nDo you "
      ++ "have a mismatched bincode version or configuration?\n"
  | trailingBytes => "Slice had bytes remaining after deserialization"

end Fault

/-- A reader takes bytes from the front of the input. -/
abbrev Decoder (α : Type) := StateT (List UInt8) (Except Fault) α

/-- A writer of values and the reader that belongs to it. -/
structure Codec (α : Type) where
  write : α → List UInt8
  read : Decoder α

/-! ## Bytes and fixed widths -/

/-- Takes one byte. -/
def readByte : Decoder UInt8
  | [] => .error .endOfInput
  | b :: rest => .ok (b, rest)

/-- The lowest `width` bytes of a number, the lowest first. -/
def littleEndian : Nat → Nat → List UInt8
  | 0, _ => []
  | width + 1, n => UInt8.ofNat (n % 256) :: littleEndian width (n / 256)

/-- Takes `width` bytes as a number, the lowest first. -/
def readLittleEndian : Nat → Decoder Nat
  | 0 => pure 0
  | width + 1 => do
    let low ← readByte
    let high ← readLittleEndian width
    return low.toNat + 256 * high

/-! ## Varints -/

/-- The shortest form of a number below 2^64. -/
def writeVarint (n : Nat) : List UInt8 :=
  if n ≤ 250 then [UInt8.ofNat n]
  else if n < 2 ^ 16 then 251 :: littleEndian 2 n
  else if n < 2 ^ 32 then 252 :: littleEndian 4 n
  else 253 :: littleEndian 8 n

/-- Takes a number in any of its forms. -/
def readVarint : Decoder Nat := do
  let first ← readByte
  if first ≤ 250 then return first.toNat
  else if first = 251 then readLittleEndian 2
  else if first = 252 then readLittleEndian 4
  else if first = 253 then readLittleEndian 8
  else if first = 254 then throw .wideMarker
  else throw .reservedMarker

/-- Takes a number below 2^32 in any of its forms. -/
def readWord : Decoder Nat := do
  let n ← readVarint
  if n < 2 ^ 32 then return n else throw (.wideWord n)

namespace Codec

variable {α β : Type}

/-! ## Elementary codecs -/

/-- A byte as it is. -/
def byte : Codec UInt8 := ⟨fun b => [b], readByte⟩

/-- A signed byte in two's complement. -/
def signedByte : Codec Int8 := ⟨fun b => [b.toUInt8], do return (← readByte).toInt8⟩

/-- A flag as one byte, zero or one. -/
def flag : Codec Bool where
  write b := [if b then 1 else 0]
  read := do
    let b ← readByte
    if b = 0 then return false else if b = 1 then return true else throw (.badFlag b)

/-- A 32-bit word as a varint. -/
def word : Codec UInt32 := ⟨fun n => writeVarint n.toNat, do return UInt32.ofNat (← readWord)⟩

/-- A 64-bit word as a varint. -/
def long : Codec UInt64 := ⟨fun n => writeVarint n.toNat, do return UInt64.ofNat (← readVarint)⟩

/-- The four bytes of a 32-bit floating-point number. -/
def single : Codec Binary32 where
  write x := littleEndian 4 x.bits.toNat
  read := do return ⟨UInt32.ofNat (← readLittleEndian 4)⟩

/-- The eight bytes of a 64-bit floating-point number. -/
def double : Codec Binary64 where
  write x := littleEndian 8 x.bits.toNat
  read := do return ⟨UInt64.ofNat (← readLittleEndian 8)⟩

/-- Takes the given number of bytes at once. -/
def readBytes (count : Nat) : Decoder (List UInt8) := fun input =>
  if count ≤ input.length then .ok (input.splitAt count) else .error .shortText

/-- A text as its length in bytes and its UTF-8 form. -/
def text : Codec String where
  write s :=
    let bytes := Utf8.encode s.toList
    writeVarint bytes.length ++ bytes
  read := do
    let bytes ← readBytes (← readVarint)
    match Utf8.decode bytes with
    | .ok chars => return String.ofList chars
    | .error fault => throw (.badText fault)

/-! ## Composition -/

/-- One value after another. -/
def both (first : Codec α) (second : Codec β) : Codec (α × β) where
  write v := first.write v.1 ++ second.write v.2
  read := do
    let a ← first.read
    let b ← second.read
    return (a, b)

/-- The same bytes under another type. -/
def via (codec : Codec α) (make : α → β) (parts : β → α) : Codec β where
  write v := codec.write (parts v)
  read := do return make (← codec.read)

/-- Takes the given number of items. -/
def readItems (item : Decoder α) : Nat → Decoder (List α)
  | 0 => pure []
  | count + 1 => do
    let first ← item
    let rest ← readItems item count
    return first :: rest

/-- A list as its length and its items. -/
def list (item : Codec α) : Codec (List α) where
  write items := writeVarint items.length ++ items.flatMap item.write
  read := do readItems item.read (← readVarint)

end Codec

end TopicHealth.Wire
