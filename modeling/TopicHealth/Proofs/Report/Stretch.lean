import Mathlib.Data.Nat.Find
import TopicHealth.Report

/-!
# Runs of reports

A run of reports is told in as many notices, one for each report in its order. Whether a healthy report is told as news
depends on the report right before it only, so that each stretch of healthy reports is news once, at its first.

* `getElem?_notices`: the notice of each report.
* `Stretch`, `exists_stretch`: healthy reports one after another, as many as there are.
* `isNews_iff`, `notice_of_stretch`: the first of a stretch, and those after it.
-/

namespace TopicHealth.Report

variable {previous : Option Bool} {reports : List Report} {r : Report} {i first next : Nat}

/-! ## Notices -/

/-- Whether the last of some reports was healthy, given what was known before them. -/
def lastHealth (previous : Option Bool) (reports : List Report) : Option Bool :=
  reports.foldl (fun _ r => some r.isHealthy) previous

/-- What is recalled after some reports and some more goes on from what was recalled between them. -/
theorem lastHealth_append (previous : Option Bool) (reports later : List Report) :
    lastHealth previous (reports ++ later) = lastHealth (lastHealth previous reports) later := List.foldl_append

theorem lastHealth_take_succ (h : reports[i]? = some r) (previous : Option Bool) :
    lastHealth previous (reports.take (i + 1)) = some r.isHealthy := by
  rw [List.take_add_one, h, lastHealth_append]
  rfl

/-- Reports told in two goes are told as in one. -/
theorem noticesFrom_append (previous : Option Bool) (reports later : List Report) :
    noticesFrom previous (reports ++ later) =
      noticesFrom previous reports ++ noticesFrom (lastHealth previous reports) later := by
  induction reports generalizing previous with
  | nil => rfl
  | cons r reports ih => exact congrArg (r.notice previous :: ·) (ih (some r.isHealthy))

theorem length_noticesFrom (previous : Option Bool) (reports : List Report) :
    (noticesFrom previous reports).length = reports.length := by
  induction reports generalizing previous with
  | nil => rfl
  | cons r reports ih => rw [noticesFrom, List.length_cons, List.length_cons, ih]

/-- A notice depends on its report and on whether the one before it was healthy. -/
theorem getElem?_noticesFrom (previous : Option Bool) (reports : List Report) (i : Nat) :
    (noticesFrom previous reports)[i]? = reports[i]?.map (notice (lastHealth previous (reports.take i))) := by
  induction reports generalizing previous i with
  | nil => rfl
  | cons r reports ih =>
    cases i with
    | zero => rfl
    | succ i => exact ih (some r.isHealthy) i

theorem getElem?_notices (h : reports[i]? = some r) :
    (notices reports)[i]? = some (r.notice (lastHealth none (reports.take i))) := by
  rw [notices, getElem?_noticesFrom, h, Option.map_some]

/-! ## Stretches -/

/-- There is a report at a place, and it is healthy. -/
def isHealthyAt (reports : List Report) (i : Nat) : Bool := reports[i]?.any isHealthy

/-- All reports from one place up to another are healthy, and the reports around them are not, if there are any. -/
structure Stretch (reports : List Report) (first next : Nat) : Prop where
  lt : first < next
  healthy : ∀ i, first ≤ i → i < next → isHealthyAt reports i = true
  before : ∀ i, i + 1 = first → isHealthyAt reports i = false
  after : isHealthyAt reports next = false

theorem isHealthyAt_of_getElem? (h : reports[i]? = some r) : isHealthyAt reports i = r.isHealthy := by
  rw [isHealthyAt, h, Option.any_some]

theorem isHealthyAt_eq_true_iff :
    isHealthyAt reports i = true ↔ ∃ r, reports[i]? = some r ∧ r.isHealthy = true := by
  rw [isHealthyAt, Option.any_eq_true]

theorem isHealthyAt_length : isHealthyAt reports reports.length = false := by
  rw [isHealthyAt, List.getElem?_eq_none (Nat.le_refl _), Option.any_none]

/-- From a healthy report on, the reports are healthy up to some place. -/
theorem exists_next (h : isHealthyAt reports i = true) : ∃ next, i < next
    ∧ (∀ j, i ≤ j → j < next → isHealthyAt reports j = true) ∧ isHealthyAt reports next = false := by
  have hlt : i < reports.length := by
    obtain ⟨r, hr, -⟩ := isHealthyAt_eq_true_iff.mp h
    exact (List.getElem?_eq_some_iff.mp hr).1
  have hexists : ∃ next, i < next ∧ isHealthyAt reports next = false :=
    ⟨reports.length, hlt, isHealthyAt_length⟩
  refine ⟨Nat.find hexists, (Nat.find_spec hexists).1, ?_, (Nat.find_spec hexists).2⟩
  intro j hij hj
  rcases Nat.eq_or_lt_of_le hij with rfl | hlater
  · exact h
  · have hmin := Nat.find_min hexists hj
    rw [not_and, Bool.not_eq_false] at hmin
    exact hmin hlater

/-- Up to a healthy report, the reports have been healthy since some place. -/
theorem exists_first (h : isHealthyAt reports i = true) : ∃ first, first ≤ i
    ∧ (∀ j, first ≤ j → j ≤ i → isHealthyAt reports j = true)
    ∧ ∀ j, j + 1 = first → isHealthyAt reports j = false := by
  induction i with
  | zero =>
    refine ⟨0, Nat.le_refl 0, ?_, fun j hj => absurd hj (Nat.succ_ne_zero j)⟩
    intro j _ hj
    rw [Nat.le_zero.mp hj]
    exact h
  | succ i ih =>
    cases hbefore : isHealthyAt reports i with
    | true =>
      obtain ⟨first, hle, hhealthy, hfirst⟩ := ih hbefore
      refine ⟨first, Nat.le_succ_of_le hle, ?_, hfirst⟩
      intro j hj hji
      rcases Nat.le_succ_iff.mp hji with hji | rfl
      · exact hhealthy j hj hji
      · exact h
    | false =>
      refine ⟨i + 1, Nat.le_refl _, ?_, ?_⟩
      · intro j hj hji
        rw [Nat.le_antisymm hji hj]
        exact h
      · intro j hj
        rw [Nat.succ.inj hj]
        exact hbefore

/-- Every healthy report is in a stretch. -/
theorem exists_stretch (h : isHealthyAt reports i = true) :
    ∃ first next, Stretch reports first next ∧ first ≤ i ∧ i < next := by
  obtain ⟨first, hfirst, hearlier, hbefore⟩ := exists_first h
  obtain ⟨next, hnext, hlater, hafter⟩ := exists_next h
  refine ⟨first, next, ⟨Nat.lt_of_le_of_lt hfirst hnext, ?_, hbefore, hafter⟩, hfirst, hnext⟩
  intro j hj hjnext
  rcases Nat.le_total j i with hji | hij
  · exact hearlier j hj hji
  · exact hlater j hij hjnext

/-- A healthy report is the first of its stretch when there is none before it, or none that is healthy. -/
theorem stretch_iff (h : isHealthyAt reports i = true) :
    (∃ next, Stretch reports i next) ↔ ∀ j, j + 1 = i → isHealthyAt reports j = false := by
  constructor
  · rintro ⟨next, hstretch⟩
    exact hstretch.before
  · intro hbefore
    obtain ⟨next, hlt, hhealthy, hafter⟩ := exists_next h
    exact ⟨next, hlt, hhealthy, hbefore, hafter⟩

/-! ## News -/

/-- The report before a place, if any, was not healthy. -/
theorem lastHealth_take_ne_iff (hi : i < reports.length) :
    lastHealth none (reports.take i) ≠ some true ↔ ∀ j, j + 1 = i → isHealthyAt reports j = false := by
  cases i with
  | zero => exact iff_of_true (Option.some_ne_none true).symm fun j hj => absurd hj (Nat.succ_ne_zero j)
  | succ i =>
    have hr := List.getElem?_eq_getElem (Nat.lt_of_succ_lt hi)
    rw [lastHealth_take_succ hr]
    constructor
    · intro hne j hj
      cases hj
      rw [isHealthyAt_of_getElem? hr]
      exact Bool.eq_false_iff.mpr fun htrue => hne (congrArg some htrue)
    · intro hbefore hsome
      have hfalse := hbefore i rfl
      rw [isHealthyAt_of_getElem? hr, Option.some.inj hsome] at hfalse
      cases hfalse

/-- A healthy report is told as news exactly if it is the first of a stretch. -/
theorem notice_of_isHealthy (h : reports[i]? = some r) (hr : r.isHealthy = true) :
    ∃ news, (notices reports)[i]? = some (.allHealthy news r.frame)
      ∧ (news = true ↔ ∃ next, Stretch reports i next) := by
  have hat : isHealthyAt reports i = true := (isHealthyAt_of_getElem? h).trans hr
  refine ⟨lastHealth none (reports.take i) != some true, ?_, ?_⟩
  · rw [getElem?_notices h, notice, if_pos hr]
  · rw [bne_iff_ne, lastHealth_take_ne_iff (List.getElem?_eq_some_iff.mp h).1, stretch_iff hat]

/-- An unhealthy report is told alike whatever came before it. -/
theorem notice_of_not_isHealthy (h : reports[i]? = some r) (hr : r.isHealthy = false) :
    (notices reports)[i]? = some (.unhealthy r.frame r.failingText) := by
  rw [getElem?_notices h, notice, if_neg (Bool.eq_false_iff.mp hr)]

/-- The news that all is well is at the first report of each stretch and nowhere else. -/
theorem isNews_iff :
    (∃ n, (notices reports)[i]? = some n ∧ n.level = .info ∧ n.message = "All services healthy") ↔
      ∃ next, Stretch reports i next := by
  constructor
  · rintro ⟨n, hn, hlevel, -⟩
    have hlt : i < reports.length := by
      rw [← length_noticesFrom none reports]
      exact (List.getElem?_eq_some_iff.mp hn).1
    have hr := List.getElem?_eq_getElem hlt
    cases hhealthy : reports[i].isHealthy with
    | true =>
      obtain ⟨news, hnotice, hnews⟩ := notice_of_isHealthy hr hhealthy
      cases hnotice.symm.trans hn
      cases news with
      | true => exact hnews.mp rfl
      | false => cases hlevel
    | false =>
      cases (notice_of_not_isHealthy hr hhealthy).symm.trans hn
      cases hlevel
  · rintro ⟨next, hstretch⟩
    obtain ⟨r, hr, hhealthy⟩ := isHealthyAt_eq_true_iff.mp (hstretch.healthy i (Nat.le_refl i) hstretch.lt)
    obtain ⟨news, hnotice, hnews⟩ := notice_of_isHealthy hr hhealthy
    rw [hnews.mpr ⟨next, hstretch⟩] at hnotice
    exact ⟨_, hnotice, rfl, rfl⟩

/-- After the first of a stretch, the same is told but is no news. -/
theorem notice_of_stretch (h : Stretch reports first next) (hfirst : first < i) (hnext : i < next) :
    ∃ r, reports[i]? = some r ∧ (notices reports)[i]? = some (.allHealthy false r.frame) := by
  obtain ⟨r, hr, hhealthy⟩ := isHealthyAt_eq_true_iff.mp (h.healthy i (Nat.le_of_lt hfirst) hnext)
  obtain ⟨news, hnotice, hnews⟩ := notice_of_isHealthy hr hhealthy
  refine ⟨r, hr, ?_⟩
  cases news with
  | false => exact hnotice
  | true =>
    -- The report before it is of the same stretch.
    obtain ⟨other, hother⟩ := hnews.mp rfl
    have hbefore := h.healthy (i - 1) (by omega) (by omega)
    rw [hother.before (i - 1) (by omega)] at hbefore
    cases hbefore

end TopicHealth.Report
