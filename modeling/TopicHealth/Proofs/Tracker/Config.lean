import Mathlib.Data.List.Sort
import Mathlib.Order.Bounds.Defs
import TopicHealth.Tracker.Config

/-!
# Valid configurations

A configuration is valid exactly when it names at least one service, no service twice, and an address that is not
empty.

* `Service.repeated?_eq_some_iff`: which service is found where some are named more than once.
* `Tracker.Config.validate_eq_ok_iff`: which configurations are valid.
-/

namespace TopicHealth

namespace Service

theorem le_iff {s t : Service} : s ≤ t ↔ s.index ≤ t.index := Iff.rfl

theorem eq_of_le_of_le {s t : Service} (hst : s ≤ t) (hts : t ≤ s) : s = t :=
  index_injective (Nat.le_antisymm (le_iff.mp hst) (le_iff.mp hts))

/-! ## Repeated services -/

/-- The services that a list holds more than once. -/
def repeats (services : List Service) : Set Service := {s | 1 < services.count s}

variable {services services' : List Service} {s : Service}

/-- The repeated services are those that are listed more than once. -/
theorem mem_repeats : s ∈ repeats services ↔ 1 < services.count s := Iff.rfl

theorem mem_of_mem_repeats (h : s ∈ repeats services) : s ∈ services :=
  List.count_pos_iff.mp (Nat.lt_of_succ_lt (mem_repeats.mp h))

theorem repeats_congr (h : services.Perm services') : repeats services = repeats services' := by
  ext s
  rw [mem_repeats, mem_repeats, h.count_eq]

theorem pairwise_mergeSort (services : List Service) :
    (services.mergeSort fun s t => s ≤ t).Pairwise fun s t => s ≤ t := by
  have htrans : ∀ r s t : Service, decide (r ≤ s) → decide (s ≤ t) → decide (r ≤ t) := by
    simp only [decide_eq_true_eq, le_iff]
    omega
  have htotal : ∀ s t : Service, (decide (s ≤ t) || decide (t ≤ s)) = true := by
    simp only [Bool.or_eq_true, decide_eq_true_eq, le_iff]
    omega
  have h := List.pairwise_mergeSort htrans htotal services
  simpa using h

/-- In a sorted list, a service that is not followed by a copy of itself has none behind it. -/
theorem not_mem_of_ne_next {t : Service} {rest : List Service}
    (hsorted : (s :: t :: rest).Pairwise fun s t => s ≤ t) (hne : s ≠ t) : s ∉ t :: rest := by
  obtain ⟨hle, htail⟩ := List.pairwise_cons.mp hsorted
  intro hmem
  rcases List.mem_cons.mp hmem with heq | hmem
  · exact hne heq
  · -- A later copy stands behind the next service, which is between the two.
    exact hne (eq_of_le_of_le (hle t List.mem_cons_self) ((List.pairwise_cons.mp htail).1 s hmem))

/-- In a sorted list, copies of a service stand side by side. -/
theorem adjacent?_eq_none_iff (services : List Service) (hsorted : services.Pairwise fun s t => s ≤ t) :
    repeated?.adjacent? services = none ↔ services.Nodup := by
  fun_induction repeated?.adjacent? services with
  | case1 s rest => simp
  | case2 s t rest hne ih =>
    rw [ih (List.pairwise_cons.mp hsorted).2, List.nodup_cons (a := s)]
    exact ⟨fun hnodup => ⟨not_mem_of_ne_next hsorted hne, hnodup⟩, fun h => h.2⟩
  | case3 services hshort =>
    match services, hshort with
    | [], _ => simp
    | [s], _ => simp
    | s :: t :: rest, hshort => exact absurd rfl (hshort s t rest)

/-- In a sorted list, the first service that is followed by a copy of itself is the least that has one. -/
theorem isLeast_of_adjacent? (hsorted : services.Pairwise fun s t => s ≤ t)
    (h : repeated?.adjacent? services = some s) : IsLeast (repeats services) s := by
  fun_induction repeated?.adjacent? services with
  | case1 t rest =>
    cases h
    constructor
    · rw [mem_repeats, List.count_cons_self, List.count_cons_self]
      omega
    · intro u hu
      rcases List.mem_cons.mp (mem_of_mem_repeats hu) with rfl | hmem
      · exact le_iff.mpr (Nat.le_refl _)
      · exact (List.pairwise_cons.mp hsorted).1 u hmem
  | case2 r t rest hne ih =>
    -- The first service has no copy, so that what is repeated is repeated behind it.
    have hsame : repeats (r :: t :: rest) = repeats (t :: rest) := by
      ext u
      rw [mem_repeats, mem_repeats]
      by_cases hu : r = u
      · subst hu
        have hzero : (t :: rest).count r = 0 := List.count_eq_zero.mpr (not_mem_of_ne_next hsorted hne)
        rw [List.count_cons_self, hzero]
        omega
      · rw [List.count_cons_of_ne hu]
    rw [hsame]
    exact ih (List.pairwise_cons.mp hsorted).2 h
  | case3 services hshort => cases h

/-- Sorted, equal services stand side by side, so that looking at neighbours is enough. -/
theorem repeated?_eq_none_iff (services : List Service) : repeated? services = none ↔ services.Nodup := by
  rw [repeated?, adjacent?_eq_none_iff _ (pairwise_mergeSort services)]
  exact (List.mergeSort_perm services _).nodup_iff

theorem isLeast_of_repeated? (h : repeated? services = some s) : IsLeast (repeats services) s := by
  have hleast := isLeast_of_adjacent? (pairwise_mergeSort services) h
  rwa [repeats_congr (List.mergeSort_perm services _)] at hleast

/-- What is found is the least of the services that are named more than once. -/
theorem repeated?_eq_some_iff : repeated? services = some s ↔ IsLeast (repeats services) s := by
  constructor
  · exact isLeast_of_repeated?
  · intro h
    cases hrepeated : repeated? services with
    | none =>
      have hle := List.nodup_iff_count_le_one.mp ((repeated?_eq_none_iff services).mp hrepeated) s
      exact absurd (mem_repeats.mp h.1) (Nat.not_lt.mpr hle)
    | some t =>
      obtain ⟨hmem, hlower⟩ := isLeast_of_repeated? hrepeated
      rw [eq_of_le_of_le (hlower h.1) (h.2 hmem)]

/-- The order of the services makes no difference. -/
theorem repeated?_congr (h : services.Perm services') : repeated? services = repeated? services' := by
  ext s
  rw [repeated?_eq_some_iff, repeated?_eq_some_iff, repeats_congr h]

end Service

/-! ## Configurations -/

namespace Tracker.Config

/-- A configuration is valid with a service or more, each listed once, and an address. -/
theorem validate_eq_ok_iff (c : Config) :
    c.validate = .ok () ↔ c.services ≠ [] ∧ c.addr ≠ "" ∧ c.services.Nodup := by
  rw [← Service.repeated?_eq_none_iff, validate]
  split_ifs with hservices haddr
  · simp_all
  · simp_all
  · split <;> simp_all

theorem validate_eq_repeatedService_iff (c : Config) {s : Service} : c.validate = .error (.repeatedService s) ↔
    c.services ≠ [] ∧ c.addr ≠ "" ∧ IsLeast (Service.repeats c.services) s := by
  rw [← Service.repeated?_eq_some_iff, validate]
  split_ifs with hservices haddr
  · simp_all
  · simp_all
  · split <;> simp_all

/-- The order of the services makes no difference, not even to what is wrong with them. -/
theorem validate_congr (c : Config) {services : List Service} (h : services.Perm c.services) :
    ({ c with services } : Config).validate = c.validate := by
  rw [validate, validate, Service.repeated?_congr h, h.isEmpty_eq]

end Tracker.Config

end TopicHealth
