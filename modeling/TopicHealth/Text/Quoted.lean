import TopicHealth.Text.Hexadecimal
import TopicHealth.Utf8

/-!
# Quoted bytes

Bytes that should be a text, made readable: in quotation marks, with what cannot stand there as it is escaped.
-/

namespace TopicHealth.Text

/-- A character as it stands between quotation marks. -/
def escapeChar (c : Char) : String :=
  match c with
  | '\t' => "\\t"
  | '\r' => "\\r"
  | '\n' => "\\n"
  | '\'' => "\\'"
  | '"' => "\\\""
  | '\\' => "\\\\"
  | c =>
    if c.toNat = 0 then "\\0"
    else if c.toNat < 0x20 || (0x7F ≤ c.toNat && c.toNat < 0xA0) then
      "\\u\x7b" ++ hexadecimal c.toNat ++ "\x7d"
    else c.toString

/-- A byte that belongs to no character. -/
def escapeByte (b : UInt8) : String :=
  let digits := (hexadecimal b.toNat).toUpper
  "\\x" ++ (if digits.length < 2 then "0" ++ digits else digits)

/-- Bytes as they stand between quotation marks: the characters among them and the rest byte by byte. -/
def escapeBytes (fuel : Nat) (bytes : List UInt8) : String :=
  let characters (bytes : List UInt8) : String := match Utf8.decode bytes with
    | .ok text => String.join (text.map escapeChar)
    | .error _ => ""
  match fuel, Utf8.decode bytes with
  | _, .ok text => String.join (text.map escapeChar)
  | 0, .error _ => ""
  | fuel + 1, .error (.malformed length index) =>
    characters (bytes.take index) ++ String.join (((bytes.drop index).take length).map escapeByte)
      ++ escapeBytes fuel (bytes.drop (index + length))
  | _ + 1, .error (.truncated index) =>
    characters (bytes.take index) ++ String.join ((bytes.drop index).map escapeByte)

/-- Bytes in quotation marks. -/
def quoteBytes (bytes : List UInt8) : String := "\"" ++ escapeBytes bytes.length bytes ++ "\""

end TopicHealth.Text
