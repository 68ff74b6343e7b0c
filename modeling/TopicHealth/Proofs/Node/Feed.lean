import TopicHealth.Proofs.Binary
import TopicHealth.Proofs.Duration
import TopicHealth.Proofs.Node.Config

/-!
# Periods of feeds

The period of a feed is the quotient of one and its rate, and is rounded twice: to a number, and to whole nanoseconds.
It is lost when the rate is above two billion messages a second, and then the feed has a period of nothing, which it
could not have been given.

* `Binary64.mul_eq`, `Binary64.one_div_eq`: products and reciprocals before they are rounded.
* `Binary64.eq_zero_iff_units_le`, `Binary64.one_div_eq_zero_iff`: when a span is rounded to nothing.
* `Node.Config.period_eq_zero_iff`: the periods of a configuration that is accepted.
-/

namespace TopicHealth

open Binary

namespace Binary64

variable {x y : Binary64} {m n : Nat} {e d : ℤ} {span : Duration}

/-! ## Products and quotients -/

theorem mul_eq (hx : x.value = .finite false m e) (hy : y.value = .finite false n d) :
    ∃ num den, 0 < den ∧ x * y = ofRatio false num den ∧ (num : ℚ) / den = (m * 2 ^ e) * (n * 2 ^ d) := by
  refine ⟨m * n * 2 ^ (e + d).toNat, 2 ^ (-(e + d)).toNat, Nat.two_pow_pos _, ?_, ?_⟩
  · show mul x y = _
    rw [mul, hx, hy]
    rfl
  · have hpow : (2 : ℚ) ^ (e + d).toNat / 2 ^ (-(e + d)).toNat = 2 ^ e * 2 ^ d := by
      rw [← zpow_natCast, ← zpow_natCast, ← zpow_sub₀ (by norm_num), ← zpow_add₀ (by norm_num)]
      congr 1
      omega
    push_cast
    rw [mul_div_assoc, hpow]
    ring

theorem value_one : one.value = .finite false (2 ^ 52) (-52) := by
  decide

theorem one_div_eq (hx : x.value = .finite false m e) (hm : 0 < m) :
    ∃ num den, 0 < den ∧ one / x = ofRatio false num den ∧ (num : ℚ) / den = 1 / (m * 2 ^ e) := by
  refine ⟨2 ^ 52 * 2 ^ (-52 - e).toNat, m * 2 ^ (e - -52).toNat, Nat.mul_pos hm (Nat.two_pow_pos _), ?_, ?_⟩
  · show div one x = _
    rw [div, value_one, hx]
    exact if_neg (Nat.ne_of_gt hm)
  · have hpow : (2 : ℚ) ^ 52 * 2 ^ (-52 - e).toNat / 2 ^ (e - -52).toNat = 1 / 2 ^ e := by
      rw [← zpow_natCast, ← zpow_natCast, ← zpow_natCast, ← zpow_add₀ (by norm_num), ← zpow_sub₀ (by norm_num), one_div,
        ← zpow_neg]
      congr 1
      push_cast
      omega
    rw [Nat.cast_mul, Nat.cast_mul, Nat.cast_pow, Nat.cast_pow, Nat.cast_pow, Nat.cast_ofNat, mul_comm (m : ℚ),
      ← div_div, hpow, div_div, mul_comm (m : ℚ)]

/-! ## Spans -/

/-- How often the least number above zero goes into one. -/
def unitsInOne : Nat := 2 ^ 1074

/-- Two powers of two make it up. Of a number and of the one it is compared with, the larger power can be taken out, so
that only mantissas are computed. -/
theorem two_pow_mul_eq {i j : Nat} (h : i + j = 1074) : 2 ^ i * 2 ^ j = unitsInOne := by
  rw [unitsInOne, ← h, Nat.pow_add]

theorem cast_unitsInOne : (unitsInOne : ℚ) = 2 ^ 1074 := by
  rw [unitsInOne, Nat.cast_pow, Nat.cast_ofNat]

theorem unitsInOne_pos : (0 : ℚ) < unitsInOne := by
  rw [cast_unitsInOne]
  positivity

theorem leastUnit_eq : (2 : ℚ) ^ double.leastExponent = 1 / unitsInOne := by
  have hleast : double.leastExponent = -(1074 : ℕ) := by
    decide
  rw [hleast, zpow_neg, zpow_natCast, cast_unitsInOne, one_div]

/-- A number of seconds as a span is rounded to whole nanoseconds. -/
theorem toNanos_toDuration? (hvalue : x.value = .finite false m e) (hspan : x.toDuration? = some span) :
    span.toNanos = roundHalfEven (m * 10 ^ 9 * 2 ^ e.toNat) (2 ^ (-e).toNat) := by
  rw [toDuration?, hvalue] at hspan
  dsimp only at hspan
  rw [Bool.false_and, if_neg Bool.false_ne_true, Duration.ofNanos?, Option.dite_none_right_eq_some] at hspan
  obtain ⟨hlt, hspan⟩ := hspan
  rw [← Option.some.inj hspan, Duration.toNanos_ofNanos]

/-- A number of seconds is rounded to nothing up to one half of a nanosecond. -/
theorem eq_zero_iff_units_le (h : x.NonNegative) (hspan : x.toDuration? = some span) :
    span = .zero ↔ 2 * 10 ^ 9 * double.units x.bits.toNat ≤ unitsInOne := by
  rcases h.value with ⟨-, m, e, hvalue, hnumber⟩ | ⟨-, hvalue⟩
  · rw [← Duration.toNanos_eq_zero_iff, toNanos_toDuration? hvalue hspan,
      roundHalfEven_eq_zero_iff _ (Nat.two_pow_pos _)]
    -- Both sides say of the exact number that twice as many nanoseconds are at most one.
    have hpos : (0 : ℚ) < (2 ^ (-e).toNat : ℕ) := by positivity
    have hscale : (2 : ℚ) ^ e * (2 ^ (-e).toNat : ℕ) = 2 ^ e.toNat := by
      rw [Nat.cast_pow, Nat.cast_ofNat, ← zpow_natCast, ← zpow_natCast, ← zpow_add₀ (by norm_num)]
      congr 1
      omega
    have hleft : ((2 * (m * 10 ^ 9 * 2 ^ e.toNat) : ℕ) : ℚ) = m * 2 ^ e * (2 * 10 ^ 9) * (2 ^ (-e).toNat : ℕ) := by
      push_cast [← hscale]
      ring
    rw [leastUnit_eq] at hnumber
    have hright : ((2 * 10 ^ 9 * double.units x.bits.toNat : ℕ) : ℚ) = m * 2 ^ e * (2 * 10 ^ 9) * unitsInOne := by
      have hunit := unitsInOne_pos.ne'
      rw [hnumber]
      push_cast
      field_simp
      ring
    rw [← Nat.cast_le (α := ℚ), ← Nat.cast_le (α := ℚ), hleft, hright, mul_le_iff_le_one_left hpos,
      mul_le_iff_le_one_left unitsInOne_pos]
  · rw [toDuration?, hvalue] at hspan
    cases hspan

/-- The bits of two billion. -/
def twoBillionBits : Nat := 0x41ddcd6500000000

theorem place_twoBillionBits : twoBillionBits / 2 ^ double.fractionBits - 1 = 1052 := by
  decide

theorem units_twoBillionBits : double.units twoBillionBits = 2 * 10 ^ 9 * unitsInOne := by
  have hmantissa : twoBillionBits - 1052 * 2 ^ double.fractionBits = 2 * 10 ^ 9 * 2 ^ 22 := by
    decide
  rw [Format.units_eq place_twoBillionBits hmantissa, Nat.mul_assoc, two_pow_mul_eq rfl]

/-- The number that comes after two billion. -/
theorem units_twoBillionBits_succ :
    double.units (twoBillionBits + 1) * 2 ^ 22 = (2 * 10 ^ 9 * 2 ^ 22 + 1) * unitsInOne := by
  rw [Format.units_succ, place_twoBillionBits, units_twoBillionBits, Nat.add_mul, two_pow_mul_eq rfl,
    Nat.mul_right_comm, Nat.add_mul (2 * 10 ^ 9 * 2 ^ 22), Nat.one_mul]

theorem exceeds_twoBillion_iff (h : x.NonNegative) : x.Exceeds (2 * 10 ^ 9) ↔ twoBillionBits < x.bits.toNat := by
  apply exceeds_iff h (by decide)
  rw [leastUnit_eq, units_twoBillionBits, Nat.cast_mul (2 * 10 ^ 9), mul_assoc, mul_one_div_cancel unitsInOne_pos.ne',
    mul_one]

/-- What it is at the place of half a nanosecond. -/
theorem unitsInOne_eq : unitsInOne = 2 ^ 83 * 2 ^ 991 := by
  rw [two_pow_mul_eq rfl]

/-- The reciprocal of two billion is rounded to more than one half of a nanosecond. -/
theorem lt_units_reciprocal : unitsInOne < 2 * 10 ^ 9 * double.units (double.nearest false 1 (2 * 10 ^ 9)) := by
  -- Two billion times this mantissa is above two to the 83, and two billion times the one before it is not.
  have hunits : double.units (double.nearest false 1 (2 * 10 ^ 9)) = 4835703278458517 * 2 ^ 991 :=
    Format.units_eq (by decide) (by decide)
  rw [hunits, unitsInOne_eq, ← Nat.mul_assoc]
  exact Nat.mul_lt_mul_of_pos_right (by decide) (by positivity)

/-- The reciprocal of the number that comes next is rounded to less. -/
theorem units_reciprocal_le :
    2 * 10 ^ 9 * double.units (double.nearest false (2 ^ 22) (2 * 10 ^ 9 * 2 ^ 22 + 1)) ≤ unitsInOne := by
  have hunits : double.units (double.nearest false (2 ^ 22) (2 * 10 ^ 9 * 2 ^ 22 + 1)) = 4835703278458516 * 2 ^ 991 :=
    Format.units_eq (by decide) (by decide)
  rw [hunits, unitsInOne_eq, ← Nat.mul_assoc]
  exact Nat.mul_le_mul_right _ (by decide)

/-- The comparison with two billion, or with the number after it, carries over to the reciprocals and their
roundings. -/
theorem units_nearest_reciprocal_le_iff {num den bits : Nat} (hden : 0 < den) (hpos : (0 : ℚ) < double.units bits)
    (hratio : (num : ℚ) / den = unitsInOne / double.units bits) :
    2 * 10 ^ 9 * double.units (double.nearest false num den) ≤ unitsInOne ↔ twoBillionBits < bits := by
  by_cases hbits : twoBillionBits < bits
  · refine iff_of_true ?_ hbits
    have hle : double.units (twoBillionBits + 1) ≤ double.units bits := double.units_strictMono.monotone hbits
    refine le_trans (Nat.mul_le_mul_left _ (double.units_strictMono.monotone ?_)) units_reciprocal_le
    apply double.nearest_mono hden (by decide)
    rw [hratio, div_le_div_iff₀ hpos (by norm_num), mul_comm]
    have hmul := Nat.mul_le_mul_right (2 ^ 22) hle
    rw [units_twoBillionBits_succ, Nat.mul_comm (double.units _)] at hmul
    exact_mod_cast hmul
  · refine iff_of_false (not_le.mpr (lt_of_lt_of_le lt_units_reciprocal ?_)) hbits
    refine Nat.mul_le_mul_left _ (double.units_strictMono.monotone ?_)
    apply double.nearest_mono (by decide) hden
    have hle : double.units bits ≤ double.units twoBillionBits :=
      double.units_strictMono.monotone (Nat.le_of_not_lt hbits)
    rw [units_twoBillionBits, Nat.mul_comm] at hle
    rw [hratio, div_le_div_iff₀ (by norm_num) hpos, Nat.cast_one, one_mul]
    exact_mod_cast hle

/-- The reciprocal of a number is less than any span above two billion, and not up to there. -/
theorem one_div_eq_zero_iff (h : x.NonNegative) (hspan : (one / x).toDuration? = some span) :
    span = .zero ↔ x.Exceeds (2 * 10 ^ 9) := by
  rcases h.value with ⟨-, m, e, hvalue, hnumber⟩ | ⟨-, hvalue⟩
  · rcases Nat.eq_zero_or_pos m with rfl | hm
    · -- The reciprocal of zero is infinite, and no span.
      exfalso
      have hinfinite : one / x = infinity false := by
        show div one x = _
        rw [div, value_one, hvalue]
        rfl
      rw [hinfinite, show (infinity false).toDuration? = none by decide] at hspan
      cases hspan
    · obtain ⟨num, den, hden, hquotient, hratio⟩ := one_div_eq hvalue hm
      rw [leastUnit_eq, mul_one_div] at hnumber
      have hpos : (0 : ℚ) < double.units x.bits.toNat := by
        have hnumberPos : (0 : ℚ) < m * 2 ^ e := mul_pos (by exact_mod_cast hm) (zpow_pos (by norm_num) _)
        rw [hnumber, lt_div_iff₀ unitsInOne_pos, zero_mul] at hnumberPos
        exact hnumberPos
      rw [hnumber, one_div_div] at hratio
      rw [hquotient] at hspan
      rw [eq_zero_iff_units_le (nonNegative_ofRatio num den) hspan, exceeds_twoBillion_iff h, toNat_bits_ofRatio]
      exact units_nearest_reciprocal_le_iff hden hpos hratio
  · have hquotient : one / x = ofRatio false 0 1 := by
      show div one x = _
      rw [div, value_one, hvalue]
      rfl
    have hnothing : double.units (double.nearest false 0 1) = 0 := by
      decide
    rw [hquotient] at hspan
    rw [eq_zero_iff_units_le (nonNegative_ofRatio 0 1) hspan, toNat_bits_ofRatio, hnothing, Exceeds, hvalue]
    exact iff_of_true (Nat.zero_le _) trivial

theorem value_of_isPositive (hfinite : x.isFinite = true) (hpositive : x.isPositive = true) :
    ∃ m e, x.value = .finite false m e ∧ 0 < m := by
  rw [isFinite] at hfinite
  rw [isPositive] at hpositive
  rcases hvalue : x.value with _ | _ | ⟨negative, m, e⟩
  · rw [hvalue] at hfinite
    cases hfinite
  · rw [hvalue] at hfinite
    cases hfinite
  · rw [hvalue] at hpositive
    cases negative with
    | true => cases hpositive
    | false => exact ⟨m, e, rfl, Nat.pos_of_ne_zero (by simpa using hpositive)⟩

end Binary64

/-! ## Rates -/

/-- No service has a rate above a hundred messages a second. -/
theorem Service.centihertz_le (s : Service) : s.centihertz ≤ 10000 := by
  cases s <;> decide

/-- The rate of a service, which is a hundred messages a second at most. -/
theorem Service.value_rate (s : Service) : ∃ m e, s.rate.value = .finite false m e ∧ (m : ℚ) * 2 ^ e ≤ 100 := by
  have hle : s.rate.bits.toNat ≤ double.nearest false 10000 100 := by
    rw [Service.rate, Binary64.toNat_bits_ofRatio]
    apply double.nearest_mono (by decide) (by decide)
    exact div_le_div_of_nonneg_right (by exact_mod_cast s.centihertz_le) (by norm_num)
  have hhundred : double.units (double.nearest false 10000 100) = 100 * Binary64.unitsInOne := by
    have hunits : double.units (double.nearest false 10000 100) = 100 * 2 ^ 46 * 2 ^ 1028 :=
      Format.units_eq (by decide) (by decide)
    rw [hunits, Nat.mul_assoc, Binary64.two_pow_mul_eq rfl]
  have hbound : double.nearest false 10000 100 < double.infinityBits := by
    decide
  -- The rate is rounded, so it is compared with a hundred by the bits of both.
  rcases (Binary64.nonNegative_ofRatio s.centihertz 100).value with ⟨-, m, e, hvalue, hnumber⟩ | ⟨heq, -⟩
  · refine ⟨m, e, hvalue, ?_⟩
    have hunits : double.units s.rate.bits.toNat ≤ 100 * Binary64.unitsInOne :=
      hhundred ▸ double.units_strictMono.monotone hle
    rw [hnumber, Binary64.leastUnit_eq, mul_one_div, div_le_iff₀ Binary64.unitsInOne_pos]
    exact_mod_cast hunits
  · rw [← Service.rate] at heq
    omega

/-- A feed of a service sends so many messages a second, however that is rounded. -/
theorem Service.nonNegative_rate_mul (s : Service) {x : Binary64} {m : Nat} {e : ℤ}
    (hvalue : x.value = .finite false m e) : (s.rate * x).NonNegative := by
  obtain ⟨k, d, hrate, -⟩ := s.value_rate
  obtain ⟨num, den, -, hproduct, -⟩ := Binary64.mul_eq hrate hvalue
  rw [hproduct]
  exact Binary64.nonNegative_ofRatio num den

/-- A feed that sends at most twenty million times as often as its service sends at most two billion messages a
second. -/
theorem Service.not_exceeds_rate_mul (s : Service) {x : Binary64} {m : Nat} {e : ℤ}
    (hvalue : x.value = .finite false m e) (hscale : ¬ x.Exceeds (2 * 10 ^ 7)) :
    ¬ (s.rate * x).Exceeds (2 * 10 ^ 9) := by
  obtain ⟨k, d, hrate, hhundred⟩ := s.value_rate
  obtain ⟨num, den, hden, hproduct, hratio⟩ := Binary64.mul_eq hrate hvalue
  rw [Binary64.Exceeds, hvalue] at hscale
  dsimp only at hscale
  rw [not_lt] at hscale
  rw [Binary64.exceeds_twoBillion_iff (s.nonNegative_rate_mul hvalue), not_lt, hproduct, Binary64.toNat_bits_ofRatio,
    show Binary64.twoBillionBits = double.nearest false (2 * 10 ^ 9) 1 by decide]
  apply double.nearest_mono hden Nat.one_pos
  rw [hratio, Nat.cast_one, div_one]
  calc (k : ℚ) * 2 ^ d * (m * 2 ^ e) ≤ 100 * (2 * 10 ^ 7 : ℕ) :=
        mul_le_mul hhundred hscale (mul_nonneg (Nat.cast_nonneg _) (zpow_pos (by norm_num) _).le) (by norm_num)
    _ = (2 * 10 ^ 9 : ℕ) := by norm_num

/-! ## Periods -/

namespace Node.Config

variable {f : Feed} {period : Duration}

/-- A period that is given is not empty, and one that follows from the rate is empty above two billion messages a
second. -/
theorem Runs.eq_zero_iff (h : Runs f) (hperiod : f.period? = some period) :
    period = .zero ↔ f.explicitPeriod = none ∧ (f.service.rate * f.rateScale).Exceeds (2 * 10 ^ 9) := by
  obtain ⟨m, e, hvalue, -⟩ := Binary64.value_of_isPositive h.isFinite h.isPositive
  rw [Feed.period?] at hperiod
  cases hexplicit : f.explicitPeriod with
  | some given =>
    rw [hexplicit] at hperiod
    dsimp only at hperiod
    -- An empty period that is given is refused, so that there is none.
    split_ifs at hperiod with hzero
    refine iff_of_false ?_ (by rintro ⟨hnone, -⟩; cases hnone)
    rintro rfl
    rw [Option.some.inj hperiod] at hzero
    exact hzero rfl
  | none =>
    rw [hexplicit] at hperiod
    dsimp only at hperiod
    rw [Feed.scaledPeriod?] at hperiod
    split_ifs at hperiod with hrate
    rw [Binary64.one_div_eq_zero_iff (f.service.nonNegative_rate_mul hvalue) hperiod]
    exact (and_iff_right rfl).symm

/-- Every feed of a configuration that is accepted has a period. It is empty exactly where it is not given and the feed
sends more than two billion messages a second, which takes more than twenty million times the rate of its service. -/
theorem period_eq_zero_iff (c : Config) (hvalid : c.validate = .ok ()) (f : Feed) (hf : f ∈ c.feeds) :
    ∃ period, f.period? = some period
      ∧ (period = .zero ↔ f.explicitPeriod = none ∧ (f.service.rate * f.rateScale).Exceeds (2 * 10 ^ 9))
      ∧ (¬ f.rateScale.Exceeds (2 * 10 ^ 7) → Duration.zero < period) := by
  obtain ⟨-, -, -, hruns, -⟩ := (validate_eq_ok_iff c).mp hvalid
  have hrun := hruns f hf
  obtain ⟨period, hperiod⟩ := exists_period_iff.mpr hrun.hasPeriod
  have hiff := hrun.eq_zero_iff hperiod
  refine ⟨period, hperiod, hiff, ?_⟩
  intro hscale
  obtain ⟨m, e, hvalue, -⟩ := Binary64.value_of_isPositive hrun.isFinite hrun.isPositive
  rw [Duration.pos_iff_ne_zero, ne_eq, hiff]
  rintro ⟨-, hexceeds⟩
  exact f.service.not_exceeds_rate_mul hvalue hscale hexceeds

/-- A feed at a hundred million times the rate of its service. -/
def fastFeed : Feed where
  service := .carState
  rateScale := .ofRatio false (10 ^ 8) 1

/-- A configuration of that feed alone. -/
def fastConfig : Config where
  tracker := { services := [.carState] }
  tick := .ofMillis 5
  updateTimeout := .zero
  reportInterval := .ofMillis 25
  feeds := [fastFeed]

/-- The configuration is accepted, and the tenth part of a nanosecond is no period. -/
theorem period_of_fastConfig : fastConfig.validate = .ok () ∧ fastFeed.period? = some .zero := by
  have hvalid : fastConfig.validate = .ok () := by
    decide +kernel
  obtain ⟨period, hperiod, hzero, -⟩ := period_eq_zero_iff fastConfig hvalid fastFeed (List.mem_singleton_self _)
  have hnumber : (fastFeed.service.rate * fastFeed.rateScale).NonNegative := by
    rw [Binary64.NonNegative]
    decide +kernel
  have hexceeds : (fastFeed.service.rate * fastFeed.rateScale).Exceeds (2 * 10 ^ 9) := by
    rw [Binary64.exceeds_twoBillion_iff hnumber]
    decide +kernel
  rw [hperiod, hzero.mpr ⟨rfl, hexceeds⟩]
  exact ⟨hvalid, rfl⟩

end Node.Config

end TopicHealth
