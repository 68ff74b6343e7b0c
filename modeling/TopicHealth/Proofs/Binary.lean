import Mathlib.Algebra.Order.Field.Power
import Mathlib.Data.Nat.Log
import Mathlib.Data.Rat.Cast.Order
import Mathlib.Order.Monotone.Basic
import Mathlib.Tactic.FieldSimp
import Mathlib.Tactic.Linarith
import Mathlib.Tactic.Ring
import TopicHealth.Binary

/-!
# Rounding

What can be said of arithmetic in a format without computing it. A quotient that is not smaller is not rounded to
anything smaller, so that a comparison with one number of the format settles how all quotients on one side of it are
rounded.

* `roundHalfEven_mono`, `roundHalfEven_eq_zero_iff`: rounding to whole numbers.
* `Format.placeOf_spec`, `Format.placeOf_mono`: the place at which a quotient is rounded.
* `Format.nearest_mono`: rounding to numbers of a format.
* `Format.units_strictMono`, `Format.decode_of_lt`: the order of the bits is that of the numbers.
* `Binary64.NonNegative.value`, `Binary64.exceeds_iff`: 64-bit numbers.
* `Binary64.exists_span_iff`: which of them are spans, as numbers of seconds.
-/

namespace TopicHealth.Binary

/-! ## Whole numbers -/

section Whole

variable {n d n' d' : Nat}

/-- A quotient lies within one half of what it is rounded to, and from a tie it is rounded to an even number. -/
theorem roundHalfEven_spec (n : Nat) (hd : 0 < d) :
    2 * n ≤ 2 * roundHalfEven n d * d + d ∧ 2 * roundHalfEven n d * d ≤ 2 * n + d
      ∧ (2 * n = 2 * roundHalfEven n d * d + d ∨ 2 * roundHalfEven n d * d = 2 * n + d →
        roundHalfEven n d % 2 = 0) := by
  have hn : n / d * d + n % d = n := Nat.div_add_mod' n d
  have hrest : n % d < d := Nat.mod_lt n hd
  have hdown : 2 * (n / d) * d = 2 * (n / d * d) := Nat.mul_assoc _ _ _
  have hup : 2 * (n / d + 1) * d = 2 * (n / d * d) + 2 * d := by ring
  rw [roundHalfEven]
  split_ifs with hless hmore
  · omega
  · omega
  · -- The rest is one half of the denominator.
    rcases Nat.mod_two_eq_zero_or_one (n / d) with heven | hodd
    · rw [heven, Nat.add_zero]
      omega
    · rw [hodd]
      omega

theorem roundHalfEven_eq_zero_iff (n : Nat) (hd : 0 < d) : roundHalfEven n d = 0 ↔ 2 * n ≤ d := by
  obtain ⟨hle, hge, htie⟩ := roundHalfEven_spec n hd
  constructor
  · intro hzero
    rw [hzero, Nat.mul_zero, Nat.zero_mul, Nat.zero_add] at hle
    exact hle
  · intro hhalf
    by_contra hne
    have hpos : 1 ≤ roundHalfEven n d := Nat.pos_of_ne_zero hne
    have hmul : 1 * d ≤ roundHalfEven n d * d := Nat.mul_le_mul_right d hpos
    rw [Nat.mul_assoc] at hge htie
    -- Only one is near enough, and it is not even.
    have hone : roundHalfEven n d * d = 1 * d := by omega
    have heq : roundHalfEven n d = 1 := Nat.eq_of_mul_eq_mul_right hd hone
    have heven := htie (.inr (by omega))
    omega

/-- Rounding keeps the order. -/
theorem roundHalfEven_mono (hd : 0 < d) (hd' : 0 < d') (h : (n : ℚ) / d ≤ n' / d') :
    roundHalfEven n d ≤ roundHalfEven n' d' := by
  obtain ⟨-, hge, heven⟩ := roundHalfEven_spec n hd
  obtain ⟨hle', -, heven'⟩ := roundHalfEven_spec n' hd'
  by_contra hlt
  have hnext : roundHalfEven n' d' + 1 ≤ roundHalfEven n d := by omega
  rw [div_le_div_iff₀ (by exact_mod_cast hd) (by exact_mod_cast hd')] at h
  have hcross : n * d' ≤ n' * d := by exact_mod_cast h
  generalize roundHalfEven n d = k at *
  generalize roundHalfEven n' d' = k' at *
  -- The numbers rounded to are next to each other, and both quotients are the tie between them.
  have hhigh : 2 * k * d * d' ≤ (2 * n + d) * d' := Nat.mul_le_mul_right d' hge
  have hlow : 2 * n' * d ≤ (2 * k' * d' + d') * d := Nat.mul_le_mul_right d hle'
  have hstep : (k' + 1) * (d * d') ≤ k * (d * d') := Nat.mul_le_mul_right _ hnext
  have hpos : 0 < d * d' := Nat.mul_pos hd hd'
  have hsame : k * (d * d') = (k' + 1) * (d * d') := by nlinarith
  have hk : k = k' + 1 := Nat.eq_of_mul_eq_mul_right hpos hsame
  have htie : 2 * k * d = 2 * n + d := by
    apply Nat.eq_of_mul_eq_mul_right hd'
    nlinarith
  have htie' : 2 * n' = 2 * k' * d' + d' := by
    apply Nat.eq_of_mul_eq_mul_right hd
    nlinarith
  have hkeven := heven (.inr htie)
  have hkeven' := heven' (.inl htie')
  omega

/-- A whole number is rounded to itself. -/
theorem roundHalfEven_one (n : Nat) : roundHalfEven n 1 = n := by
  simp [roundHalfEven, Nat.mod_one]

end Whole

/-! ## Places -/

section Place

variable {f : Format} {num den num' den' : Nat}

/-- Taking a power of two out of a quotient. -/
theorem unscale_div (num den : Nat) (e : ℤ) :
    ((unscale num den e).1 : ℚ) / (unscale num den e).2 = (num : ℚ) / den / 2 ^ e := by
  rcases Int.eq_nat_or_neg e with ⟨k, rfl | rfl⟩
  · simp [unscale, div_div]
  · simp [unscale, div_eq_mul_inv]
    ring

theorem unscale_pos (num : Nat) (hden : 0 < den) (e : ℤ) : 0 < (unscale num den e).2 :=
  Nat.mul_pos hden (Nat.two_pow_pos _)

/-- A positive quotient lies between two powers of two that the sizes of its parts give. -/
theorem quotient_bounds (hnum : 0 < num) (hden : 0 < den) :
    (2 : ℚ) ^ ((num.log2 : ℤ) - den.log2 - 1) < (num : ℚ) / den
      ∧ (num : ℚ) / den < 2 ^ ((num.log2 : ℤ) - den.log2 + 1) := by
  have hnum₁ : (2 : ℚ) ^ (num.log2 : ℤ) ≤ num := by
    exact_mod_cast Nat.log2_self_le (Nat.ne_of_gt hnum)
  have hnum₂ : (num : ℚ) < 2 ^ ((num.log2 : ℤ) + 1) := by
    exact_mod_cast Nat.lt_log2_self
  have hden₁ : (2 : ℚ) ^ (den.log2 : ℤ) ≤ den := by
    exact_mod_cast Nat.log2_self_le (Nat.ne_of_gt hden)
  have hden₂ : (den : ℚ) < 2 ^ ((den.log2 : ℤ) + 1) := by
    exact_mod_cast Nat.lt_log2_self
  have hpos : (0 : ℚ) < den := by exact_mod_cast hden
  -- Both bounds come from the sizes of the parts, and may be off by one power of two.
  rw [lt_div_iff₀ hpos, div_lt_iff₀ hpos]
  constructor
  · calc (2 : ℚ) ^ ((num.log2 : ℤ) - den.log2 - 1) * den
        < 2 ^ ((num.log2 : ℤ) - den.log2 - 1) * 2 ^ ((den.log2 : ℤ) + 1) :=
          mul_lt_mul_of_pos_left hden₂ (zpow_pos (by norm_num) _)
      _ = 2 ^ (num.log2 : ℤ) := by
          rw [← zpow_add₀ (by norm_num)]
          congr 1
          ring
      _ ≤ num := hnum₁
  · calc (num : ℚ) < 2 ^ ((num.log2 : ℤ) + 1) := hnum₂
      _ = 2 ^ ((num.log2 : ℤ) - den.log2 + 1) * 2 ^ (den.log2 : ℤ) := by
          rw [← zpow_add₀ (by norm_num)]
          congr 1
          ring
      _ ≤ 2 ^ ((num.log2 : ℤ) - den.log2 + 1) * den :=
          mul_le_mul_of_nonneg_left hden₁ (zpow_pos (by norm_num) _).le

/-- The place without regard to the least one: there a quotient counted in last places is in the range of mantissas. -/
theorem Format.exists_place (f : Format) (hnum : 0 < num) (hden : 0 < den) :
    ∃ place : ℤ, f.placeOf num den = max f.leastExponent place
      ∧ (num : ℚ) / den / 2 ^ place < 2 ^ (f.fractionBits + 1)
      ∧ 2 ^ f.fractionBits ≤ (num : ℚ) / den / 2 ^ place := by
  obtain ⟨hlow, hhigh⟩ := quotient_bounds hnum hden
  have hscaled := unscale_div num den ((num.log2 : ℤ) - den.log2 - (f.fractionBits + 1))
  have hpos := unscale_pos num hden ((num.log2 : ℤ) - den.log2 - (f.fractionBits + 1))
  rw [Format.placeOf]
  dsimp only
  -- From here on only the quotient and the estimate of its place matter.
  generalize hx : (num : ℚ) / den = x at *
  generalize hlowPlace : (num.log2 : ℤ) - den.log2 - (f.fractionBits + 1) = low at *
  have hdpos : (0 : ℚ) < (unscale num den low).2 := by exact_mod_cast hpos
  have hpow : (0 : ℚ) < 2 ^ low := zpow_pos (by norm_num) _
  have hpow' : (0 : ℚ) < 2 ^ (low + 1) := zpow_pos (by norm_num) _
  refine ⟨_, rfl, ?_⟩
  split_ifs with hfits
  · refine ⟨?_, ?_⟩
    · rw [← hscaled, div_lt_iff₀ hdpos, mul_comm]
      exact_mod_cast hfits
    · rw [le_div_iff₀ hpow]
      refine le_trans (le_of_eq ?_) hlow.le
      rw [← zpow_natCast, ← zpow_add₀ (by norm_num)]
      congr 1
      omega
  · -- Where the estimate is one place too low, the quotient does not fit there.
    refine ⟨?_, ?_⟩
    · rw [div_lt_iff₀ hpow']
      refine lt_of_lt_of_eq hhigh ?_
      rw [← zpow_natCast, ← zpow_add₀ (by norm_num)]
      congr 1
      omega
    · have hmore : (2 : ℚ) ^ (f.fractionBits + 1) ≤ x / 2 ^ low := by
        rw [← hscaled, le_div_iff₀ hdpos, mul_comm]
        exact_mod_cast Nat.le_of_not_lt hfits
      rw [zpow_add_one₀ (by norm_num), ← div_div, le_div_iff₀ (by norm_num), ← pow_succ]
      exact hmore

/-- A quotient counted in last places is below the range of mantissas, and within it but at the least place. -/
theorem Format.placeOf_spec (f : Format) (hnum : 0 < num) (hden : 0 < den) :
    f.leastExponent ≤ f.placeOf num den
      ∧ (num : ℚ) / den / 2 ^ f.placeOf num den < 2 ^ (f.fractionBits + 1)
      ∧ (f.placeOf num den = f.leastExponent ∨ 2 ^ f.fractionBits ≤ (num : ℚ) / den / 2 ^ f.placeOf num den) := by
  obtain ⟨place, hmax, hupper, hlower⟩ := f.exists_place hnum hden
  rw [hmax]
  refine ⟨le_max_left _ _, ?_, ?_⟩
  · refine lt_of_le_of_lt ?_ hupper
    have hquotient : (0 : ℚ) ≤ num / den := div_nonneg (Nat.cast_nonneg _) (Nat.cast_nonneg _)
    exact div_le_div_of_nonneg_left hquotient (zpow_pos (by norm_num) _)
      (zpow_le_zpow_right₀ (by norm_num) (le_max_right _ _))
  · rcases le_total place f.leastExponent with hle | hle
    · exact .inl (max_eq_left hle)
    · rw [max_eq_right hle]
      exact .inr hlower

/-- The bits before they are bounded: the place over the least one, and the quotient counted in last places. -/
theorem Format.nearest_eq (f : Format) (hnum : 0 < num) :
    f.nearest false num den = Nat.min ((f.placeOf num den - f.leastExponent).toNat * 2 ^ f.fractionBits
      + roundHalfEven (unscale num den (f.placeOf num den)).1 (unscale num den (f.placeOf num den)).2)
        f.infinityBits := by
  rw [Format.nearest, if_neg (Nat.ne_of_gt hnum), Format.signBit, if_neg Bool.false_ne_true]
  dsimp only
  rw [Nat.zero_add]

/-- Nothing is rounded beyond infinity. -/
theorem Format.nearest_le (f : Format) (num den : Nat) : f.nearest false num den ≤ f.infinityBits := by
  rcases Nat.eq_zero_or_pos num with rfl | hnum
  · rw [Format.nearest, if_pos rfl, Format.signBit, if_neg Bool.false_ne_true]
    exact Nat.zero_le _
  · rw [f.nearest_eq hnum]
    exact Nat.min_le_right _ _

/-- What is rounded at a lower place stays below what is rounded at a higher one. -/
theorem Format.place_add_round_le (f : Format) {place place' : ℤ} {scaled scaled' : Nat × Nat}
    (hleast : f.leastExponent ≤ place) (hlt : place < place') (hpos : 0 < scaled.2) (hpos' : 0 < scaled'.2)
    (hupper : (scaled.1 : ℚ) / scaled.2 ≤ 2 ^ (f.fractionBits + 1))
    (hlower : 2 ^ f.fractionBits ≤ (scaled'.1 : ℚ) / scaled'.2) :
    (place - f.leastExponent).toNat * 2 ^ f.fractionBits + roundHalfEven scaled.1 scaled.2
      ≤ (place' - f.leastExponent).toNat * 2 ^ f.fractionBits + roundHalfEven scaled'.1 scaled'.2 := by
  -- Rounding is monotone, so both roundings are compared with the powers of two between them.
  have hbound : roundHalfEven scaled.1 scaled.2 ≤ roundHalfEven (2 ^ (f.fractionBits + 1)) 1 := by
    apply roundHalfEven_mono hpos Nat.one_pos
    rw [Nat.cast_one, div_one]
    exact_mod_cast hupper
  have hbound' : roundHalfEven (2 ^ f.fractionBits) 1 ≤ roundHalfEven scaled'.1 scaled'.2 := by
    apply roundHalfEven_mono Nat.one_pos hpos'
    rw [Nat.cast_one, div_one]
    exact_mod_cast hlower
  rw [roundHalfEven_one] at hbound hbound'
  have hstep : (place - f.leastExponent).toNat + 1 ≤ (place' - f.leastExponent).toNat := by omega
  have hmul := Nat.mul_le_mul_right (2 ^ f.fractionBits) hstep
  rw [Nat.pow_succ] at hbound
  rw [Nat.add_mul, Nat.one_mul] at hmul
  omega

/-- A quotient that is not smaller is not rounded at a lower place. -/
theorem Format.placeOf_mono (f : Format) (hnum : 0 < num) (hden : 0 < den) (hnum' : 0 < num') (hden' : 0 < den')
    (h : (num : ℚ) / den ≤ num' / den') : f.placeOf num den ≤ f.placeOf num' den' := by
  obtain ⟨-, -, hlower⟩ := f.placeOf_spec hnum hden
  obtain ⟨hleast', hupper', -⟩ := f.placeOf_spec hnum' hden'
  by_contra hgt
  -- The larger quotient would be beyond the mantissas of its place.
  have hlower := hlower.resolve_left (by omega)
  have hpow : (2 : ℚ) ^ (f.placeOf num' den' + 1) ≤ 2 ^ f.placeOf num den :=
    zpow_le_zpow_right₀ (by norm_num) (by omega)
  rw [le_div_iff₀ (zpow_pos (by norm_num) _)] at hlower
  rw [div_lt_iff₀ (zpow_pos (by norm_num) _)] at hupper'
  have hbeyond : (2 : ℚ) ^ f.fractionBits * 2 ^ (f.placeOf num' den' + 1) ≤ num' / den' :=
    le_trans (mul_le_mul_of_nonneg_left hpow (by positivity)) (le_trans hlower h)
  rw [zpow_add_one₀ (by norm_num)] at hbeyond
  rw [pow_succ] at hupper'
  linarith

/-- A quotient that is not smaller is not rounded to anything smaller. -/
theorem Format.nearest_mono (f : Format) (hden : 0 < den) (hden' : 0 < den')
    (h : (num : ℚ) / den ≤ num' / den') : f.nearest false num den ≤ f.nearest false num' den' := by
  rcases Nat.eq_zero_or_pos num with rfl | hnum
  · rw [Format.nearest, if_pos rfl, Format.signBit, if_neg Bool.false_ne_true]
    exact Nat.zero_le _
  · have hnum' : 0 < num' := by
      rcases Nat.eq_zero_or_pos num' with rfl | hpos
      · have hpos : (0 : ℚ) < num / den := div_pos (by exact_mod_cast hnum) (by exact_mod_cast hden)
        rw [Nat.cast_zero, zero_div] at h
        exact absurd h (not_le.mpr hpos)
      · exact hpos
    have hplace := f.placeOf_mono hnum hden hnum' hden' h
    obtain ⟨hleast, hupper, -⟩ := f.placeOf_spec hnum hden
    obtain ⟨-, -, hlower'⟩ := f.placeOf_spec hnum' hden'
    rw [f.nearest_eq hnum, f.nearest_eq hnum']
    refine min_le_min_right _ ?_
    rw [← unscale_div] at hupper hlower'
    have hpos := unscale_pos num hden (f.placeOf num den)
    have hpos' := unscale_pos num' hden' (f.placeOf num' den')
    -- At different places the mantissas are in different ranges; at the same place it is
    -- rounding that keeps the order.
    rcases hplace.lt_or_eq with hlt | heq
    · exact f.place_add_round_le hleast hlt hpos hpos' hupper.le (hlower'.resolve_left (by omega))
    · rw [heq] at hpos ⊢
      refine Nat.add_le_add_left (roundHalfEven_mono hpos hpos' ?_) _
      rw [unscale_div, unscale_div]
      exact div_le_div_of_nonneg_right h (zpow_pos (by norm_num) _).le

end Place

/-! ## Bits -/

namespace Format

variable {f : Format} {bits : Nat}

/-- How often the least number of a format above zero goes into the number of some bits. -/
def units (f : Format) (bits : Nat) : Nat :=
  (bits - (bits / 2 ^ f.fractionBits - 1) * 2 ^ f.fractionBits) * 2 ^ (bits / 2 ^ f.fractionBits - 1)

/-- The number of some bits by its place and its mantissa. -/
theorem units_eq {place mantissa : Nat} (hplace : bits / 2 ^ f.fractionBits - 1 = place)
    (hmantissa : bits - place * 2 ^ f.fractionBits = mantissa) : f.units bits = mantissa * 2 ^ place := by
  rw [units, hplace, hmantissa]

/-- From one number to the next it is one last place. -/
theorem units_succ (f : Format) (bits : Nat) :
    f.units (bits + 1) = f.units bits + 2 ^ (bits / 2 ^ f.fractionBits - 1) := by
  have hpos : 0 < 2 ^ f.fractionBits := Nat.two_pow_pos _
  rw [units, units]
  generalize 2 ^ f.fractionBits = size at *
  have hbits : size * (bits / size) + bits % size = bits := Nat.div_add_mod bits size
  have hrest : bits % size < size := Nat.mod_lt bits hpos
  generalize hfield : bits / size = field at *
  by_cases hcarry : bits % size + 1 = size
  · -- The fraction carries into the exponent field, and the place moves unless the field was empty.
    have hnext : (bits + 1) / size = field + 1 := by
      rw [← hbits, Nat.add_assoc, hcarry, Nat.mul_add_div hpos, Nat.div_self hpos]
    rw [hnext]
    cases field with
    | zero => omega
    | succ k =>
      rw [Nat.mul_add, Nat.mul_comm] at hbits
      have hmantissa : bits + 1 - (k + 1 + 1 - 1) * size = size := by
        rw [Nat.add_sub_cancel, Nat.add_mul]
        omega
      have hmantissa' : bits - (k + 1 - 1) * size + 1 = 2 * size := by
        rw [Nat.add_sub_cancel]
        omega
      rw [hmantissa, Nat.add_sub_cancel, Nat.add_sub_cancel]
      rw [Nat.add_sub_cancel] at hmantissa'
      rw [← Nat.succ_mul, Nat.succ_eq_add_one, hmantissa', Nat.pow_succ]
      ring
  · have hnext : (bits + 1) / size = field := by
      have hlt : bits % size + 1 < size := by omega
      rw [← hbits, Nat.add_assoc, Nat.mul_add_div hpos, Nat.div_eq_of_lt hlt, Nat.add_zero]
    have hle : (field - 1) * size ≤ bits := by
      have hmul := Nat.mul_le_mul_right size (Nat.sub_le field 1)
      rw [Nat.mul_comm field] at hmul
      omega
    rw [hnext, Nat.succ_sub hle, Nat.succ_mul]

/-- The numbers are in the order of their bits. -/
theorem units_strictMono (f : Format) : StrictMono f.units := by
  apply strictMono_nat_of_lt_succ
  intro bits
  rw [units_succ]
  exact Nat.lt_add_of_pos_right (Nat.two_pow_pos _)

/-- Bits below infinity stand for a number that is not negative. -/
theorem decode_of_lt (h : bits < f.infinityBits) :
    ∃ m e, decode f bits = .finite false m e ∧ (m : ℚ) * 2 ^ e = f.units bits * 2 ^ f.leastExponent := by
  have hpos : 0 < 2 ^ f.fractionBits := Nat.two_pow_pos _
  have hfield : bits / 2 ^ f.fractionBits < 2 ^ f.exponentBits - 1 := by
    rw [infinityBits] at h
    exact (Nat.div_lt_iff_lt_mul hpos).mpr h
  have hexponent : bits / 2 ^ f.fractionBits < 2 ^ f.exponentBits := Nat.lt_of_lt_of_le hfield (Nat.sub_le _ _)
  have hmod : bits / 2 ^ f.fractionBits % 2 ^ f.exponentBits = bits / 2 ^ f.fractionBits :=
    Nat.mod_eq_of_lt hexponent
  have hsign : bits / 2 ^ (f.fractionBits + f.exponentBits) % 2 ≠ 1 := by
    rw [Nat.pow_add, ← Nat.div_div_eq_div_mul, Nat.div_eq_of_lt hexponent]
    decide
  have hbits : 2 ^ f.fractionBits * (bits / 2 ^ f.fractionBits) + bits % 2 ^ f.fractionBits = bits :=
    Nat.div_add_mod _ _
  rw [decode, hmod, if_neg (Nat.ne_of_lt hfield), decide_eq_false hsign, units]
  generalize bits / 2 ^ f.fractionBits = field at *
  generalize 2 ^ f.fractionBits = size at *
  -- An empty exponent field has the least place and no leading bit.
  cases field with
  | zero =>
    have hfraction : bits % size = bits := by omega
    exact ⟨_, _, if_pos rfl, by simp [hfraction]⟩
  | succ k =>
    refine ⟨_, _, if_neg (Nat.succ_ne_zero k), ?_⟩
    have hmantissa : bits - k * size = size + bits % size := by
      rw [Nat.mul_add, Nat.mul_comm] at hbits
      omega
    rw [Nat.add_sub_cancel, hmantissa, Int.natCast_succ, add_sub_cancel_right, zpow_add₀ (by norm_num)]
    push_cast
    rw [zpow_natCast]
    ring

end Format

end TopicHealth.Binary

/-! ## Numbers of the 64-bit format -/

namespace TopicHealth.Binary64

open Binary

variable {x : Binary64} {num den : Nat}

theorem toNat_bits_ofRatio (num den : Nat) : (ofRatio false num den).bits.toNat = double.nearest false num den := by
  have hle := double.nearest_le num den
  have hlt : double.infinityBits < 2 ^ 64 := by decide
  rw [ofRatio, UInt64.toNat_ofNat']
  exact Nat.mod_eq_of_lt (by omega)

/-- The bits of a number that is positive, zero or infinite. -/
def NonNegative (x : Binary64) : Prop := x.bits.toNat ≤ double.infinityBits

theorem nonNegative_ofRatio (num den : Nat) : (ofRatio false num den).NonNegative := by
  rw [NonNegative, toNat_bits_ofRatio]
  exact double.nearest_le num den

/-- What the bits stand for: a number, or infinity. -/
theorem NonNegative.value (h : x.NonNegative) :
    (x.bits.toNat < double.infinityBits ∧ ∃ m e, x.value = .finite false m e
        ∧ (m : ℚ) * 2 ^ e = double.units x.bits.toNat * 2 ^ double.leastExponent)
      ∨ x.bits.toNat = double.infinityBits ∧ x.value = .infinite false := by
  rcases Nat.lt_or_eq_of_le h with hlt | heq
  · exact .inl ⟨hlt, Format.decode_of_lt hlt⟩
  · refine .inr ⟨heq, ?_⟩
    rw [Binary64.value, heq]
    decide

/-- The number is greater than a whole number, or infinite. -/
def Exceeds (x : Binary64) (bound : Nat) : Prop :=
  match x.value with
  | .finite false m e => (bound : ℚ) < m * 2 ^ e
  | .infinite false => True
  | _ => False

/-- Which numbers are greater than a whole number that the format has. -/
theorem exceeds_iff (h : x.NonNegative) {bound bits : Nat} (hbits : bits < double.infinityBits)
    (hbound : (bound : ℚ) = double.units bits * 2 ^ double.leastExponent) :
    x.Exceeds bound ↔ bits < x.bits.toNat := by
  rw [Exceeds]
  rcases h.value with ⟨hlt, m, e, hvalue, hnumber⟩ | ⟨heq, hvalue⟩
  · rw [hvalue]
    dsimp only
    rw [hnumber, hbound, mul_lt_mul_iff_left₀ (zpow_pos (by norm_num) _), Nat.cast_lt,
      double.units_strictMono.lt_iff_lt]
  · rw [hvalue, heq]
    exact iff_of_true trivial hbits

/-! ## Spans -/

variable {negative : Bool} {m : Nat} {e : ℤ}

/-- The number is not negative, and less than a whole number. -/
def Below (x : Binary64) (bound : Nat) : Prop :=
  match x.value with
  | .finite negative m e => (negative && m != 0) = false ∧ (m : ℚ) * 2 ^ e < bound
  | _ => False

/-- A finite number has 53 bits of mantissa at most. -/
theorem mantissa_lt (h : x.value = .finite negative m e) : m < 2 ^ 53 := by
  have hfraction : x.bits.toNat % 2 ^ double.fractionBits < 2 ^ 52 := Nat.mod_lt _ (Nat.two_pow_pos _)
  rw [Binary64.value, decode] at h
  split_ifs at h
  · cases h
    omega
  · cases h
    change 2 ^ 52 + x.bits.toNat % 2 ^ double.fractionBits < 2 ^ 53
    omega

/-- What is rounded to whole nanoseconds is a span if the seconds are below 2^64: a number next to that has no fraction
left to be rounded up. -/
theorem nanos_lt_limit_iff (hm : m < 2 ^ 53) :
    roundHalfEven (m * 10 ^ 9 * 2 ^ e.toNat) (2 ^ (-e).toNat) < Duration.limit ↔ (m : ℚ) * 2 ^ e < (2 ^ 64 : ℕ) := by
  have hden : 0 < 2 ^ (-e).toNat := Nat.two_pow_pos _
  have hquotient : ((m * 10 ^ 9 * 2 ^ e.toNat : ℕ) : ℚ) / (2 ^ (-e).toNat : ℕ) = m * 2 ^ e * 10 ^ 9 := by
    have hpow : (2 : ℚ) ^ e.toNat / 2 ^ (-e).toNat = 2 ^ e := by
      rw [← zpow_natCast, ← zpow_natCast, ← zpow_sub₀ (by norm_num)]
      congr 1
      omega
    push_cast
    rw [mul_div_assoc, hpow]
    ring
  rw [← not_iff_not, not_lt, not_lt]
  constructor
  · intro hlimit
    by_contra hlt
    rw [not_le] at hlt
    rcases Int.eq_nat_or_neg e with ⟨k, rfl | rfl⟩
    · -- Without a fraction there is nothing to round.
      rw [Int.toNat_natCast, Int.toNat_neg_natCast, Nat.pow_zero, roundHalfEven_one, Duration.limit] at hlimit
      rw [zpow_natCast] at hlt
      have hlt' : m * 2 ^ k < 2 ^ 64 := by exact_mod_cast hlt
      have hmul : m * 10 ^ 9 * 2 ^ k = m * 2 ^ k * 10 ^ 9 := Nat.mul_right_comm _ _ _
      omega
    -- With a fraction the number is below 2^53, which is far from the limit.
    · have hle : roundHalfEven (m * 10 ^ 9 * 2 ^ (-(k : ℤ)).toNat) (2 ^ (-(-(k : ℤ))).toNat)
          ≤ roundHalfEven (2 ^ 53 * 10 ^ 9) 1 := by
        apply roundHalfEven_mono hden Nat.one_pos
        have hone : (2 : ℚ) ^ (-(k : ℤ)) ≤ 1 := zpow_le_one_of_nonpos₀ (by norm_num) (by omega)
        have hmantissa : (m : ℚ) ≤ 2 ^ 53 := by exact_mod_cast hm.le
        have hnumber : (m : ℚ) * 2 ^ (-(k : ℤ)) ≤ 2 ^ 53 :=
          le_trans (mul_le_of_le_one_right (Nat.cast_nonneg m) hone) hmantissa
        rw [hquotient, Nat.cast_one, div_one]
        push_cast
        linarith
      rw [roundHalfEven_one] at hle
      rw [Duration.limit] at hlimit
      omega
  · intro hle
    have hround : roundHalfEven Duration.limit 1 ≤ roundHalfEven (m * 10 ^ 9 * 2 ^ e.toNat) (2 ^ (-e).toNat) := by
      apply roundHalfEven_mono Nat.one_pos hden
      rw [hquotient, Duration.limit, Nat.cast_one, div_one, Nat.cast_mul]
      push_cast at hle ⊢
      linarith
    rwa [roundHalfEven_one] at hround

/-- A number of seconds is a span exactly if it is not negative and below 2^64. -/
theorem exists_span_iff : (∃ span, x.toDuration? = some span) ↔ x.Below (2 ^ 64) := by
  rw [toDuration?, Below]
  cases hvalue : x.value with
  | nan | infinite => simp
  | finite negative m e =>
    dsimp only
    cases hsign : negative && m != 0 with
    | true => simp
    | false =>
      rw [if_neg Bool.false_ne_true, Duration.ofNanos?, and_iff_right rfl, ← nanos_lt_limit_iff (mantissa_lt hvalue)]
      constructor
      · rintro ⟨span, hspan⟩
        exact (Option.dite_none_right_eq_some.mp hspan).1
      · intro hlt
        exact ⟨_, dif_pos hlt⟩

end TopicHealth.Binary64
