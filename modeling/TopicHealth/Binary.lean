import TopicHealth.Duration

/-!
# Binary floating point

Numbers of the 32- and 64-bit interchange formats, kept as their bits. `Binary.Value` is what bits stand for:
a sign, a whole mantissa and a power of two, all exact. Arithmetic computes the exact quotient of two whole
numbers and rounds it once, to the nearest number of the format and from a tie to the even one.
-/

namespace TopicHealth

/-- The widths of the fraction and of the exponent field of a format. -/
structure Binary.Format where
  fractionBits : Nat
  exponentBits : Nat

/-- What the bits of a number stand for. A finite number is the mantissa times two to the exponent. -/
inductive Binary.Value where
  | nan
  | infinite (negative : Bool)
  | finite (negative : Bool) (mantissa : Nat) (exponent : Int)
deriving DecidableEq, Repr

namespace Binary

/-- The 32-bit format. -/
def single : Format := ⟨23, 8⟩

/-- The 64-bit format. -/
def double : Format := ⟨52, 11⟩

/-- The exponent of the last place of the numbers nearest to zero. -/
def Format.leastExponent (f : Format) : Int := 2 - 2 ^ (f.exponentBits - 1) - f.fractionBits

/-- Reads bits: a full exponent field is an infinity or not a number, an empty one has no leading one. -/
def decode (f : Format) (bits : Nat) : Value :=
  let fraction := bits % 2 ^ f.fractionBits
  let field := bits / 2 ^ f.fractionBits % 2 ^ f.exponentBits
  let negative := bits / 2 ^ (f.fractionBits + f.exponentBits) % 2 = 1
  if field = 2 ^ f.exponentBits - 1 then
    if fraction = 0 then .infinite negative else .nan
  else if field = 0 then .finite negative fraction f.leastExponent
  else .finite negative (2 ^ f.fractionBits + fraction) (f.leastExponent + (field - 1))

namespace Value

/-- Equality of numbers: zeros are equal whatever their sign, and what is not a number equals nothing. -/
def same : Value → Value → Bool
  | .infinite s, .infinite t => s = t
  | .finite s m e, .finite t n d => (m = 0 && n = 0) || (s = t && m = n && e = d)
  | _, _ => false

/-- Whether the value is not a number. -/
def isNaN : Value → Bool
  | .nan => true
  | _ => false

end Value

/-- The quotient rounded to the nearest whole number, from a tie to the even one. -/
def roundHalfEven (num den : Nat) : Nat :=
  let quotient := num / den
  let rest := num % den
  if 2 * rest < den then quotient
  else if den < 2 * rest then quotient + 1
  else quotient + quotient % 2

/-- The numerator and denominator of a quotient divided by two to the exponent `e`. -/
def unscale (num den : Nat) (e : Int) : Nat × Nat :=
  (num * 2 ^ (-e).toNat, den * 2 ^ e.toNat)

/-- The exponent of the last place that a positive quotient has in the format. -/
def Format.placeOf (f : Format) (num den : Nat) : Int :=
  let low : Int := num.log2 - den.log2 - (f.fractionBits + 1)
  let (n, d) := unscale num den low
  max f.leastExponent (if n < d * 2 ^ (f.fractionBits + 1) then low else low + 1)

/-- The bits of a sign. -/
def Format.signBit (f : Format) (negative : Bool) : Nat :=
  if negative then 2 ^ (f.fractionBits + f.exponentBits) else 0

/-- The bits of infinity without its sign. -/
def Format.infinityBits (f : Format) : Nat := (2 ^ f.exponentBits - 1) * 2 ^ f.fractionBits

/-- The bits of the number nearest to a quotient. A mantissa that rounds up to the next power of two carries
into the exponent field by itself; what reaches the full exponent field is infinite. -/
def Format.nearest (f : Format) (negative : Bool) (num den : Nat) : Nat :=
  if num = 0 then f.signBit negative
  else
    let place := f.placeOf num den
    let (n, d) := unscale num den place
    let bits := (place - f.leastExponent).toNat * 2 ^ f.fractionBits + roundHalfEven n d
    f.signBit negative + Nat.min bits f.infinityBits

end Binary

/-- A number of the 32-bit format. -/
structure Binary32 where
  bits : UInt32
deriving DecidableEq, Inhabited

/-- A number of the 64-bit format. -/
structure Binary64 where
  bits : UInt64
deriving DecidableEq, Inhabited

namespace Binary32

/-- What the bits stand for. -/
def value (x : Binary32) : Binary.Value := Binary.decode Binary.single x.bits.toNat

/-- Equality of numbers, which is not equality of bits. -/
def same (x y : Binary32) : Bool := x.value.same y.value

end Binary32

namespace Binary64

open Binary

/-- What the bits stand for. -/
def value (x : Binary64) : Value := decode double x.bits.toNat

/-- Equality of numbers, which is not equality of bits. -/
def same (x y : Binary64) : Bool := x.value.same y.value

/-- The number nearest to a quotient. -/
def ofRatio (negative : Bool) (num den : Nat) : Binary64 :=
  ⟨UInt64.ofNat (double.nearest negative num den)⟩

/-- The quiet value that is not a number. -/
def nan : Binary64 := ⟨0x7ff8000000000000⟩

/-- Infinity. -/
def infinity (negative : Bool) : Binary64 := ⟨UInt64.ofNat (double.signBit negative + double.infinityBits)⟩

/-- The number one. -/
def one : Binary64 := ofRatio false 1 1

/-- The product. -/
def mul (x y : Binary64) : Binary64 :=
  match x.value, y.value with
  | .nan, _ | _, .nan => nan
  | .infinite s, .infinite t => infinity (s != t)
  | .infinite s, .finite t n _ | .finite t n _, .infinite s => if n = 0 then nan else infinity (s != t)
  | .finite s m e, .finite t n d =>
    ofRatio (s != t) (m * n * 2 ^ (e + d).toNat) (2 ^ (-(e + d)).toNat)

/-- The quotient. -/
def div (x y : Binary64) : Binary64 :=
  match x.value, y.value with
  | .nan, _ | _, .nan => nan
  | .infinite _, .infinite _ => nan
  | .infinite s, .finite t _ _ => infinity (s != t)
  | .finite s _ _, .infinite t => ofRatio (s != t) 0 1
  | .finite s m e, .finite t n d =>
    if n = 0 then if m = 0 then nan else infinity (s != t)
    else ofRatio (s != t) (m * 2 ^ (e - d).toNat) (n * 2 ^ (d - e).toNat)

instance : Mul Binary64 := ⟨mul⟩

instance : Div Binary64 := ⟨div⟩

/-- Whether the number is neither infinite nor absent. -/
def isFinite (x : Binary64) : Bool :=
  match x.value with
  | .finite .. => true
  | _ => false

/-- Whether the number is greater than zero. -/
def isPositive (x : Binary64) : Bool :=
  match x.value with
  | .finite s m _ => !s && m != 0
  | .infinite s => !s
  | .nan => false

/-- The number nearest to a whole number times a power of ten. A power so far out that the answer is zero or
infinite for every mantissa of that many digits is not computed. -/
def ofDecimal (negative : Bool) (digits : Nat) (exponent : Int) : Binary64 :=
  let magnitude : Int := exponent + (Nat.toDigits 10 digits).length
  if digits = 0 || magnitude < -400 then ofRatio negative 0 1
  else if 400 < magnitude then infinity negative
  else ofRatio negative (digits * 10 ^ exponent.toNat) (10 ^ (-exponent).toNat)

/-- The number of seconds as a duration, to the nearest nanosecond and from a tie to the even one. None for a
number below zero, over the range or absent; the negative zero is zero. -/
def toDuration? (x : Binary64) : Option Duration :=
  match x.value with
  | .finite s m e =>
    if s && m != 0 then none
    else Duration.ofNanos? (roundHalfEven (m * 10 ^ 9 * 2 ^ e.toNat) (2 ^ (-e).toNat))
  | _ => none

end Binary64

end TopicHealth
