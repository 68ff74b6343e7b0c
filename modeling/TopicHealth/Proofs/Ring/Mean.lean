import Mathlib.Algebra.Order.BigOperators.Group.List
import Mathlib.Data.Finset.Max
import Mathlib.Data.Rat.Floor
import TopicHealth.Proofs.Ring.Moves

/-!
# Means of rings

The mean of the durations that a ring holds is their exact arithmetic mean, rounded down to the nanosecond, wherever
they stand in the ring. There is none only where their sum is over the range.

* `Duration.tally?_eq_sum?`: when a sum carries nanoseconds over into the seconds makes no difference to it.
* `exists_extremes`: a mean is between the least and the greatest of the durations.
* `mean_eq_floor`: when there is a mean, and which.
-/

namespace TopicHealth

/-! ## Sums -/

namespace Duration

/-- Seconds and nanoseconds that are added up apart, each in a 64-bit word. -/
structure Tally where
  secs : Nat
  nanos : Nat

namespace Tally

/-- The exact value in nanoseconds. -/
def toNanos (t : Tally) : Nat := t.secs * 10 ^ 9 + t.nanos

/-- Adds a duration. Nanoseconds are carried over only where their word is full; none when the seconds overflow. -/
def add? (t : Tally) (d : Duration) : Option Tally :=
  if 2 ^ 64 ≤ t.secs + d.secs then none
  else if t.nanos + d.nanos < 2 ^ 64 then some ⟨t.secs + d.secs, t.nanos + d.nanos⟩
  else if 2 ^ 64 ≤ t.secs + d.secs + t.nanos / 10 ^ 9 then none
  else some ⟨t.secs + d.secs + t.nanos / 10 ^ 9, t.nanos % 10 ^ 9 + d.nanos⟩

/-- The duration that it comes to once all whole seconds are carried over; none when the seconds overflow. -/
def carry? (t : Tally) : Option Duration := ofParts? (t.secs + t.nanos / 10 ^ 9) (t.nanos % 10 ^ 9)

theorem toNanos_add? {t u : Tally} {d : Duration} (h : t.add? d = some u) : u.toNanos = t.toNanos + d.toNanos := by
  rw [add?] at h
  split_ifs at h <;> cases h <;> simp only [toNanos, Duration.toNanos] <;> omega

theorem limit_le_of_add? {t : Tally} {d : Duration} (h : t.add? d = none) : limit ≤ t.toNanos + d.toNanos := by
  rw [add?] at h
  simp only [toNanos, Duration.toNanos, limit]
  split_ifs at h <;> omega

/-- To carry nanoseconds over to seconds at the end is to fit the number of nanoseconds into a duration. -/
theorem carry?_eq (t : Tally) : t.carry? = ofNanos? t.toNanos := by
  have hnanos : t.nanos % 10 ^ 9 < 10 ^ 9 := Nat.mod_lt _ (by decide)
  have hfits : t.toNanos < limit ↔ t.secs + t.nanos / 10 ^ 9 < 2 ^ 64 := by
    simp only [toNanos, limit]
    omega
  by_cases h : t.toNanos < limit
  · have hparts : t.secs + t.nanos / 10 ^ 9 < 2 ^ 64 ∧ t.nanos % 10 ^ 9 < 10 ^ 9 := ⟨hfits.mp h, hnanos⟩
    rw [carry?, ofParts?, dif_pos hparts, ofNanos?, dif_pos h]
    congr 1
    refine toNanos_injective ?_
    rw [toNanos_ofNanos]
    simp only [Duration.toNanos, toNanos]
    omega
  · have hparts : ¬ (t.secs + t.nanos / 10 ^ 9 < 2 ^ 64 ∧ t.nanos % 10 ^ 9 < 10 ^ 9) := fun hparts =>
      h (hfits.mpr hparts.1)
    rw [carry?, ofParts?, dif_neg hparts, ofNanos?, dif_neg h]

end Tally

/-- The sum of a list with one carry, at its end; none when it overflows. -/
def tally? (ds : List Duration) : Option Duration := (ds.foldlM Tally.add? ⟨0, 0⟩).bind Tally.carry?

/-- Seconds and nanoseconds added up apart, with the carry at the end, make the sum. -/
theorem foldlM_tally (ds : List Duration) (t : Tally) :
    (ds.foldlM Tally.add? t).bind Tally.carry? = ofNanos? (t.toNanos + (ds.map toNanos).sum) := by
  induction ds generalizing t with
  | nil =>
    rw [List.foldlM_nil, List.map_nil, List.sum_nil, Nat.add_zero]
    exact t.carry?_eq
  | cons d ds ih =>
    rw [List.foldlM_cons, List.map_cons, List.sum_cons, ← Nat.add_assoc]
    cases hadd : t.add? d with
    | none =>
      have hover : limit ≤ t.toNanos + d.toNanos := Tally.limit_le_of_add? hadd
      have hnot : ¬ t.toNanos + d.toNanos + (ds.map toNanos).sum < limit := by omega
      rw [ofNanos?, dif_neg hnot]
      rfl
    | some u =>
      rw [← Tally.toNanos_add? hadd]
      exact ih u

/-- A sum that carries nanoseconds over at its end is one that does so at every step. -/
theorem tally?_eq_sum? (ds : List Duration) : tally? ds = sum? ds := by
  have hzero : (⟨0, 0⟩ : Tally).toNanos = 0 := rfl
  rw [tally?, foldlM_tally, hzero, Nat.zero_add, sum?_eq]

end Duration

/-! ## Means -/

namespace Ring

variable {n : Nat} {r : Ring Duration n}

/-- The exact arithmetic mean of the durations held, in nanoseconds. -/
def exactMean (r : Ring Duration n) : ℚ := r.total / r.len

theorem toList_ne_nil_iff : r.toList ≠ [] ↔ 0 < r.len := by
  rw [← List.length_pos_iff, length_toList]

/-- There is no mean where the sum is over the range. -/
theorem mean_of_limit_le (hpos : 0 < r.len) (h : Duration.limit ≤ r.total) : r.mean = .error .overflow := by
  have hsum : Duration.sum? r.toList = none := by
    rw [Duration.sum?_eq]
    exact dif_neg (Nat.not_lt.mpr h)
  rw [mean, dif_pos hpos, hsum]

theorem mean_of_len_eq_zero (h : r.len = 0) : r.mean = .ok none := by
  rw [mean, dif_neg (by omega)]

/-- What is rounded down from the exact mean of durations is between the least and the greatest of them. -/
theorem exists_extremes {ds : List Duration} (hne : ds ≠ []) {mean : Duration}
    (hmean : mean.toNanos = (ds.map Duration.toNanos).sum / ds.length) :
    ∃ least greatest, IsLeast {d | d ∈ ds} least ∧ IsGreatest {d | d ∈ ds} greatest
      ∧ least ≤ mean ∧ mean ≤ greatest := by
  have hlength : 0 < ds.length := List.length_pos_iff.mpr hne
  have hnonempty : ds.toFinset.Nonempty := (List.toFinset_nonempty_iff ds).mpr hne
  obtain ⟨least, hleast, hle⟩ := ds.toFinset.exists_min_image Duration.toNanos hnonempty
  obtain ⟨greatest, hgreatest, hge⟩ := ds.toFinset.exists_max_image Duration.toNanos hnonempty
  simp only [List.mem_toFinset] at hleast hle hgreatest hge
  -- The sum is between as many times the least and as many times the greatest, and division keeps the order.
  have hlower : ds.length * least.toNanos ≤ (ds.map Duration.toNanos).sum := by
    have h := List.card_nsmul_le_sum (ds.map Duration.toNanos) least.toNanos (List.forall_mem_map.mpr hle)
    rwa [List.length_map, nsmul_eq_mul, Nat.cast_id] at h
  have hupper : (ds.map Duration.toNanos).sum ≤ ds.length * greatest.toNanos := by
    have h := List.sum_le_card_nsmul (ds.map Duration.toNanos) greatest.toNanos (List.forall_mem_map.mpr hge)
    rwa [List.length_map, nsmul_eq_mul, Nat.cast_id] at h
  refine ⟨least, greatest, ⟨hleast, hle⟩, ⟨hgreatest, hge⟩, ?_, ?_⟩
  · rw [Duration.le_def, hmean, Nat.le_div_iff_mul_le hlength, Nat.mul_comm]
    exact hlower
  · rw [Duration.le_def, hmean]
    exact Nat.div_le_of_le_mul hupper

/-- Let a ring of any capacity hold fewer than 2^32 durations, with its head anywhere. On bare storage they can be read
one after another, oldest first, and their sum is the same whether nanoseconds are carried over at every step or at its
end. The ring has no mean where it is empty. Where it is not, the mean overflows exactly if the exact sum of the
durations is more than the longest duration; if it is not, there is a mean, which is the exact one rounded down to whole
nanoseconds, and between the least and the greatest of the durations. -/
theorem mean_eq_floor (r : Ring Duration n) (hcount : r.len < 2 ^ 32) :
    r.cells.values = .ok r.toList ∧ Duration.tally? r.toList = Duration.sum? r.toList
      ∧ (r.mean = .ok none ↔ r.toList = [])
      ∧ (r.mean = .error .overflow ↔ Duration.max.toNanos < r.total)
      ∧ (r.toList ≠ [] → r.total ≤ Duration.max.toNanos →
        ∃ mean, r.mean = .ok (some mean) ∧ (mean.toNanos : ℤ) = ⌊r.exactMean⌋
          ∧ ∃ least greatest, IsLeast {d | d ∈ r.toList} least ∧ IsGreatest {d | d ∈ r.toList} greatest
            ∧ least ≤ mean ∧ mean ≤ greatest) := by
  have hmax : ∀ sum, sum ≤ Duration.max.toNanos ↔ sum < Duration.limit := by
    intro sum
    rw [Duration.toNanos_max, Duration.limit]
    omega
  refine ⟨r.cells_values, Duration.tally?_eq_sum? _, ?_⟩
  by_cases hempty : r.len = 0
  · have hnil : r.toList = [] := List.eq_nil_of_length_eq_zero (r.length_toList.trans hempty)
    have htotal : r.total = 0 := by
      rw [total, hnil]
      rfl
    rw [mean_of_len_eq_zero hempty, htotal]
    exact ⟨iff_of_true rfl hnil, iff_of_false nofun (Nat.not_lt_zero _), fun hne => absurd hnil hne⟩
  · have hpos : 0 < r.len := Nat.pos_of_ne_zero hempty
    have hne : r.toList ≠ [] := toList_ne_nil_iff.mpr hpos
    -- A sum that fits is divided by parts, with carries from the seconds to the nanoseconds.
    by_cases hfits : r.total ≤ Duration.max.toNanos
    · obtain ⟨mean, hmean, hfloor⟩ := r.mean_of_total_lt hpos hcount ((hmax _).mp hfits)
      have hexact : (mean.toNanos : ℤ) = ⌊r.exactMean⌋ := by
        rw [exactMean, Rat.floor_natCast_div_natCast, hfloor, Int.natCast_ediv]
      have hrounded : mean.toNanos = (r.toList.map Duration.toNanos).sum / r.toList.length := by
        rw [hfloor, total, length_toList]
      have hbetween := exists_extremes hne hrounded
      rw [hmean]
      exact ⟨iff_of_false nofun hne, iff_of_false nofun (Nat.not_lt.mpr hfits),
        fun _ _ => ⟨mean, rfl, hexact, hbetween⟩⟩
    · have hover : Duration.limit ≤ r.total := Nat.not_lt.mp fun hlt => hfits ((hmax _).mpr hlt)
      rw [mean_of_limit_le hpos hover]
      exact ⟨iff_of_false nofun hne, iff_of_true rfl (Nat.not_le.mp hfits), fun _ hle => absurd hle hfits⟩

/-- Durations around the end of a ring, whose nanoseconds make up a second. -/
def wrappedRing : Ring Duration 3 :=
  after 3 [.push (.ofNanos 77), .push (.ofNanos 41999999999), .push (.ofNanos 42000000001), .push (.ofNanos 6500000003)]

/-- The longest duration, and one more nanosecond. -/
def heavyRing : Ring Duration 2 := after 2 [.push .max, .push (.ofNanos 1)]

/-- What is left of a nanosecond is rounded down, and one nanosecond more than the longest duration is too much. -/
theorem mean_of_wrappedRing : wrappedRing.head = 1 ∧ wrappedRing.len < 2 ^ 32 ∧ heavyRing.len < 2 ^ 32
    ∧ (∃ mean, wrappedRing.mean = .ok (some mean) ∧ (mean.toNanos : ℤ) = 30166666667)
    ∧ heavyRing.mean = .error .overflow := by
  have hcount : wrappedRing.len < 2 ^ 32 := by decide
  have hheavy : heavyRing.len < 2 ^ 32 := by decide
  obtain ⟨-, -, -, -, hmean⟩ := mean_eq_floor wrappedRing hcount
  obtain ⟨-, -, -, hover, -⟩ := mean_eq_floor heavyRing hheavy
  obtain ⟨mean, heq, hfloor, -⟩ := hmean (by decide) (by decide)
  have htotal : wrappedRing.total = 90500000003 := by decide
  have hlen : wrappedRing.len = 3 := by decide
  rw [exactMean, htotal, hlen, Rat.floor_natCast_div_natCast] at hfloor
  exact ⟨by decide, hcount, hheavy, ⟨mean, heq, hfloor⟩, hover.mpr (by decide)⟩

end Ring

end TopicHealth
