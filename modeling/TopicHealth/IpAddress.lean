import TopicHealth.Text.Blank

/-!
# IP addresses

The two kinds of addresses, read from their usual notations and written in one canonical form. Octets of the first
kind have no leading zeros. An address of the second kind may leave out one run of zero groups, marked by a
double colon, and may end in an address of the first kind.
-/

namespace TopicHealth

/-- An address of a host. -/
inductive IpAddress where
  | v4 (a b c d : UInt8)
  | v6 (groups : Vector UInt16 8)
deriving DecidableEq

namespace IpAddress

/-! ## Reading -/

/-- The value of a hexadecimal digit. -/
def hexValue? (c : Char) : Option Nat :=
  if c.isDigit then some (c.toNat - 48)
  else if 'a' ≤ c && c ≤ 'f' then some (c.toNat - 87)
  else if 'A' ≤ c && c ≤ 'F' then some (c.toNat - 55)
  else none

/-- An octet: up to three decimal digits without a leading zero, at most 255. -/
def octet? (text : List Char) : Option (UInt8 × List Char) :=
  let digits := text.takeWhile Char.isDigit
  let n := Text.decimal digits
  if digits.isEmpty || 3 < digits.length || (digits.head? = some '0' && 1 < digits.length) || 255 < n then none
  else some (UInt8.ofNat n, text.dropWhile Char.isDigit)

/-- An octet after a point. -/
def pointOctet? : List Char → Option (UInt8 × List Char)
  | '.' :: rest => octet? rest
  | _ => none

/-- Four octets with points between them. -/
def octets? (text : List Char) : Option ((UInt8 × UInt8 × UInt8 × UInt8) × List Char) := do
  let (a, rest) ← octet? text
  let (b, rest) ← pointOctet? rest
  let (c, rest) ← pointOctet? rest
  let (d, rest) ← pointOctet? rest
  return ((a, b, c, d), rest)

/-- A group of up to four hexadecimal digits. -/
def group? (text : List Char) : Option (UInt16 × List Char) :=
  let digits := text.takeWhile fun c => (hexValue? c).isSome
  if digits.isEmpty || 4 < digits.length then none
  else
    let n := digits.foldl (fun n c => n * 16 + (hexValue? c).getD 0) 0
    some (UInt16.ofNat n, text.dropWhile fun c => (hexValue? c).isSome)

/-- The text after the colon that separates a group from the one before it; the first has none. -/
def afterColon? (first : Bool) (text : List Char) : Option (List Char) :=
  match first, text with
  | true, text => some text
  | false, ':' :: rest => some rest
  | false, _ => none

/-- As many groups as there are, up to a number of them, what is left, and whether they end in four octets, which
count as two groups. -/
def groups (first : Bool) : Nat → List Char → List UInt16 × List Char × Bool
  | 0, text => ([], text, false)
  | room + 1, text =>
    match afterColon? first text with
    | none => ([], text, false)
    | some body =>
      match if 0 < room then octets? body else none with
      | some ((a, b, c, d), rest) =>
        ([a.toUInt16 * 256 + b.toUInt16, c.toUInt16 * 256 + d.toUInt16], rest, true)
      | none => match group? body with
        | none => ([], text, false)
        | some (g, rest) =>
          let (more, rest, dotted) := groups false room rest
          (g :: more, rest, dotted)

/-- The address of eight groups. -/
def ofGroups? (gs : List UInt16) : Option IpAddress :=
  if h : gs.toArray.size = 8 then some (.v6 ⟨gs.toArray, h⟩) else none

/-- An address of the second kind. -/
def v6? (text : List Char) : Option (IpAddress × List Char) :=
  let (head, rest, dotted) := groups true 8 text
  if head.length = 8 then (ofGroups? head).map (·, rest)
  else if dotted then none
  else match rest with
    | ':' :: ':' :: rest =>
      let (tail, rest, _) := groups true (7 - head.length) rest
      (ofGroups? (head ++ List.replicate (8 - head.length - tail.length) 0 ++ tail)).map (·, rest)
    | _ => none

/-- The address that a text writes, which has to be all of the text. -/
def parse? (text : String) : Option IpAddress :=
  let read := match octets? text.toList with
    | some ((a, b, c, d), rest) => some (v4 a b c d, rest)
    | none => v6? text.toList
  match read with
  | some (address, []) => some address
  | _ => none

/-! ## Writing -/

/-- The start and the length of the longest run of zeros, the first of those that are equally long. -/
def longestZeros (gs : List UInt16) : Nat × Nat :=
  (scan 0 gs 0 (0, 0)).2
where
  /-- Scans on from an index, with the length of the run that ends there and the longest run so far. -/
  scan (index : Nat) : List UInt16 → Nat → Nat × Nat → Nat × (Nat × Nat)
    | [], run, best => (run, best)
    | g :: gs, run, best =>
      if g = 0 then
        let run := run + 1
        scan (index + 1) gs run (if best.2 < run then (index + 1 - run, run) else best)
      else scan (index + 1) gs 0 best

/-- Groups in hexadecimal with colons between them. -/
def groupsText (gs : List UInt16) : String :=
  ":".intercalate (gs.map fun g => String.ofList (Nat.toDigits 16 g.toNat))

/-- Four octets in decimal with points between them. -/
def octetsText (a b c d : UInt8) : String :=
  ".".intercalate ([a, b, c, d].map fun o => toString o.toNat)

/-- The canonical text: the longest run of at least two zero groups is left out, and an address of the first kind
that is mapped into the second shows as such. -/
def text : IpAddress → String
  | v4 a b c d => octetsText a b c d
  | v6 groups =>
    let gs := groups.toList
    match gs with
    | [0, 0, 0, 0, 0, 0xffff, x, y] =>
      "::ffff:" ++ octetsText (x / 256).toUInt8 x.toUInt8 (y / 256).toUInt8 y.toUInt8
    | gs =>
      let (start, length) := longestZeros gs
      if 1 < length then groupsText (gs.take start) ++ "::" ++ groupsText (gs.drop (start + length))
      else groupsText gs

end IpAddress

end TopicHealth
