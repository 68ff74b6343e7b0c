import Mathlib.Tactic.Ring
import TopicHealth.Duration

/-!
# Sums and quotients of durations

A duration is empty when it counts no nanosecond. A sum of durations is exact or fails for want of range, and a
quotient is rounded down to the nanosecond.
-/

namespace TopicHealth.Duration

theorem toNanos_eq_zero_iff {d : Duration} : d.toNanos = 0 ↔ d = zero := by
  constructor
  · intro h
    exact toNanos_injective h
  · rintro rfl
    rfl

theorem pos_iff_ne_zero {d : Duration} : zero < d ↔ d ≠ zero := by
  rw [lt_def, toNanos_zero, Nat.pos_iff_ne_zero, ne_eq, toNanos_eq_zero_iff]

theorem isZero_iff {d : Duration} : d.isZero = true ↔ d = zero := by
  rw [isZero, Bool.and_eq_true, decide_eq_true_iff, decide_eq_true_iff]
  constructor
  · rintro ⟨hsecs, hnanos⟩
    refine toNanos_injective ?_
    rw [toNanos, hsecs, hnanos]
    rfl
  · rintro rfl
    exact ⟨rfl, rfl⟩

/-- Nothing is left of the time up to an instant that has come. -/
theorem isZero_sub_iff {deadline now : Duration} : (deadline - now).isZero = true ↔ deadline ≤ now := by
  rw [isZero_iff, ← toNanos_eq_zero_iff, toNanos_sub, Nat.sub_eq_zero_iff_le, le_def]

/-- Adding up from a duration on: the sum is exact, and there is none only where it is over the range. -/
theorem foldlM_add? (ds : List Duration) (start : Duration) :
    ds.foldlM add? start = ofNanos? (start.toNanos + (ds.map toNanos).sum) := by
  induction ds generalizing start with
  | nil =>
    have hlt : start.toNanos < limit := start.toNanos_lt
    simp only [List.foldlM_nil, List.map_nil, List.sum_nil, Nat.add_zero, ofNanos?, dif_pos hlt]
    exact congrArg some (toNanos_injective (toNanos_ofNanos _ hlt).symm)
  | cons d ds ih =>
    rw [List.foldlM_cons, List.map_cons, List.sum_cons, ← Nat.add_assoc]
    cases hadd : start.add? d with
    | none =>
      -- The sum that is over the range already can only grow.
      have hover : limit ≤ start.toNanos + d.toNanos := add?_eq_none_iff.mp hadd
      have hnot : ¬ start.toNanos + d.toNanos + (ds.map toNanos).sum < limit := by omega
      rw [ofNanos?, dif_neg hnot]
      rfl
    | some next =>
      rw [← toNanos_add? hadd]
      exact ih next

/-- The sum of a list is exact, and there is none only where it is over the range. -/
theorem sum?_eq (ds : List Duration) : sum? ds = ofNanos? (ds.map toNanos).sum := by
  rw [sum?, foldlM_add?, toNanos_zero, Nat.zero_add]

/-- A quotient is rounded down. -/
theorem toNanos_divide (d : Duration) (n : Nat) (h : 0 < n) : (d.divide n h).toNanos = d.toNanos / n := by
  -- Whole counts of the divisor are taken off the seconds and off the nanoseconds, and what is left is divided at once.
  have hsecs : n * (d.secs / n) + d.secs % n = d.secs := Nat.div_add_mod _ _
  have hnanos : n * (d.nanos / n) + d.nanos % n = d.nanos := Nat.div_add_mod _ _
  have hsplit : d.toNanos =
      (d.secs % n * 10 ^ 9 + d.nanos % n) + n * (d.secs / n * 10 ^ 9 + d.nanos / n) := by
    calc d.toNanos = (n * (d.secs / n) + d.secs % n) * 10 ^ 9 + (n * (d.nanos / n) + d.nanos % n) := by
          rw [hsecs, hnanos, toNanos]
      _ = (d.secs % n * 10 ^ 9 + d.nanos % n) + n * (d.secs / n * 10 ^ 9 + d.nanos / n) := by ring
  rw [hsplit, Nat.add_mul_div_left _ _ h]
  simp only [toNanos, divide]
  omega

end TopicHealth.Duration
