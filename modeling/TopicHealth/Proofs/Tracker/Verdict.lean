import TopicHealth.Proofs.Tracker.Receipt

/-!
# Verdicts

A verdict passes over the services that are exempt when it is asked for, and a tick sets the flags of the services
that are exempt when it judges them. After a tick the two agree, so that a verdict about tracked services says what
their flags say. Of a service that is not tracked there is no flag to look at.

* `firstFailing_eq_none_iff`: no service of a list fails a test.
* `exempted_of_run`: after a tick the flags of exempt services are set.
* `allAlive_eq_true_iff`, `allFreqOk_eq_true_iff`, `allValid_eq_true_iff`: the verdicts, for any services.
* `allAlive_iff_flags`, `allFreqOk_iff_flags`, `allValid_iff_flags`: the verdicts, for tracked services after a tick.
* `allFreqOk_of_not_mem`, `exempt_or_passes_iff`: what comes of a service that is not tracked.
-/

namespace TopicHealth.Tracker

variable {c : Config} {p : Policy} {s : Service} {ticks : List Tick} {t : Tracker} {selection : Option (List Service)}

/-! ## Any services -/

/-- A service is tracked and its status passes a test. -/
def Passes (t : Tracker) (test : Status → Prop) (s : Service) : Prop := ∃ st, t.status? s = some st ∧ test st

theorem mem_services_of_passes {test : Status → Prop} (h : t.Passes test s) : s ∈ t.services := by
  obtain ⟨st, hst, -⟩ := h
  exact key_mem_of_lookup hst

/-- No service fails a test exactly when each is tracked and passes it. -/
theorem firstFailing_eq_none_iff {test : Service → Status → Bool} {services : List Service} :
    t.firstFailing test services = none ↔ ∀ s ∈ services, t.Passes (test s · = true) s := by
  rw [firstFailing, List.find?_eq_none]
  refine forall₂_congr fun s _ => ?_
  rw [Bool.not_eq_true, Bool.not_eq_false', Option.any_eq_true, Passes]

/-- A test that passes over some services. -/
theorem firstFailing_filter_eq_none_iff {test : Service → Status → Bool} {exempt services : List Service} :
    t.firstFailing test (services.filter fun s => !exempt.contains s) = none ↔
      ∀ s ∈ services, s ∈ exempt ∨ t.Passes (test s · = true) s := by
  rw [firstFailing_eq_none_iff, List.forall_mem_filter]
  refine forall₂_congr fun s _ => ?_
  rw [Bool.not_eq_true', ← Bool.not_eq_true, List.contains_iff_mem, or_iff_not_imp_left]

theorem allAlive_eq_true_iff : t.allAlive selection = true ↔
    ∀ s ∈ t.selected selection, s ∈ t.policy.ignoreAlive ∨ t.Passes (·.alive = true) s := by
  rw [allAlive, Option.isNone_iff_eq_none, firstDead, firstFailing_filter_eq_none_iff]

theorem allValid_eq_true_iff : t.allValid selection = true ↔
    ∀ s ∈ t.selected selection, s ∈ t.policy.ignoreValid ∨ t.Passes (·.valid = true) s := by
  rw [allValid, Option.isNone_iff_eq_none, firstInvalid, firstFailing_filter_eq_none_iff]

/-- An exemption from the rate check is one of the status as well, and so no service that has none is passed over. -/
theorem allFreqOk_eq_true_iff : t.allFreqOk selection = true ↔
    ∀ s ∈ t.selected selection, t.Passes (fun st => t.policy.rateCheckApplies s st = true → st.freqOk = true) s := by
  rw [allFreqOk, Option.isNone_iff_eq_none, firstSlow, firstFailing_eq_none_iff]
  refine forall₂_congr fun s _ => exists_congr fun st => and_congr_right fun _ => ?_
  beta_reduce
  rw [Bool.or_eq_true, Bool.not_eq_true', ← Bool.not_eq_true, imp_iff_not_or]

theorem allChecks_eq_true_iff : t.allChecks selection = true ↔
    t.allAlive selection = true ∧ t.allFreqOk selection = true ∧ t.allValid selection = true := by
  rw [allChecks, Bool.and_eq_true, Bool.and_eq_true, and_assoc]

/-! ## Tracked services -/

/-- The flags of a service that is exempt are set. -/
structure Exempted (p : Policy) (s : Service) (st : Status) : Prop where
  alive : s ∈ p.ignoreAlive → st.alive = true
  freqOk : ¬ p.rateCheckApplies s st = true → st.freqOk = true
  valid : s ∈ p.ignoreValid → st.valid = true

/-- The flag of an exempt service is set at every tick. -/
theorem aliveAt_of_mem {st : Status} {now : Duration} (h : s ∈ p.ignoreAlive) : p.aliveAt s st now = true := by
  rw [Policy.aliveAt]
  cases s.maxAge? with
  | none => rfl
  | some maxAge =>
    rw [List.contains_iff_mem.mpr h]
    rfl

theorem keepsRate_of_not_applies {st : Status} (h : ¬ p.rateCheckApplies s st = true) :
    p.keepsRate s st = .ok true := by
  rw [Policy.keepsRate]
  cases s.maxMean? with
  | none => rfl
  | some maxMean => exact if_neg h

/-- After a tick the flags of exempt services are set, whether or not a message has come. -/
theorem exempted_of_run (h : (ofConfig c).run ticks = .ok t) (hne : ticks ≠ []) (hs : s ∈ c.services) :
    ∃ st, t.status? s = some st ∧ Exempted t.policy s st := by
  obtain ⟨st, hst, hrecorded⟩ := recorded_of_run h hs
  obtain ⟨st', hst', hjudged⟩ := judged_of_run h hs
  cases hst.symm.trans hst'
  have hlast := hjudged _ (List.getLast?_eq_some_getLast hne)
  refine ⟨st, hst, ?_⟩
  rw [(ran_of_run h).policy]
  constructor
  case alive =>
    intro hexempt
    rw [hlast.alive, aliveAt_of_mem hexempt]
  case freqOk =>
    intro hexempt
    have hkeeps := hlast.freqOk
    rw [keepsRate_of_not_applies hexempt] at hkeeps
    exact (Except.ok.inj hkeeps).symm
  case valid =>
    -- Where no message has come the flag is as it was to begin with.
    intro hexempt
    rw [hrecorded.valid]
    cases (receipts s ticks).getLast? with
    | none => rfl
    | some r =>
      rw [Option.elim_some, List.contains_iff_mem.mpr hexempt, Bool.or_true]

section Flags

variable (hrun : (ofConfig c).run ticks = .ok t) (hne : ticks ≠ [])
  (htracked : ∀ s ∈ t.selected selection, s ∈ c.services)

include hrun hne htracked

/-- After a tick the check and the flags agree, since both look at the same exemptions. -/
theorem allAlive_iff_flags :
    t.allAlive selection = true ↔ ∀ s ∈ t.selected selection, t.Passes (·.alive = true) s := by
  rw [allAlive_eq_true_iff]
  refine forall₂_congr fun s hs => or_iff_right_of_imp fun hexempt => ?_
  obtain ⟨st, hst, hflags⟩ := exempted_of_run hrun hne (htracked s hs)
  exact ⟨st, hst, hflags.alive hexempt⟩

theorem allFreqOk_iff_flags :
    t.allFreqOk selection = true ↔ ∀ s ∈ t.selected selection, t.Passes (·.freqOk = true) s := by
  rw [allFreqOk_eq_true_iff]
  refine forall₂_congr fun s hs => ?_
  obtain ⟨st, hst, hflags⟩ := exempted_of_run hrun hne (htracked s hs)
  constructor
  · rintro ⟨st', hst', hpasses⟩
    cases hst.symm.trans hst'
    -- Either the check applies, or the tick has set the flag.
    by_cases happlies : t.policy.rateCheckApplies s st = true
    · exact ⟨st, hst, hpasses happlies⟩
    · exact ⟨st, hst, hflags.freqOk happlies⟩
  · rintro ⟨st', hst', hflag⟩
    exact ⟨st', hst', fun _ => hflag⟩

theorem allValid_iff_flags :
    t.allValid selection = true ↔ ∀ s ∈ t.selected selection, t.Passes (·.valid = true) s := by
  rw [allValid_eq_true_iff]
  refine forall₂_congr fun s hs => or_iff_right_of_imp fun hexempt => ?_
  obtain ⟨st, hst, hflags⟩ := exempted_of_run hrun hne (htracked s hs)
  exact ⟨st, hst, hflags.valid hexempt⟩

end Flags

/-! ## Services that are not tracked -/

/-- The rate check looks a service up before it asks who is exempt. -/
theorem allFreqOk_of_not_mem (hs : s ∈ t.selected selection) (huntracked : s ∉ t.services) :
    t.allFreqOk selection = false := by
  rw [← Bool.not_eq_true, allFreqOk_eq_true_iff]
  intro hpasses
  exact huntracked (mem_services_of_passes (hpasses s hs))

/-- The other two checks pass a service over that is exempt, tracked or not. -/
theorem exempt_or_passes_iff {exempt services : List Service} {test : Status → Prop} :
    (∀ s ∈ services, s ∈ exempt ∨ t.Passes test s) ↔
      (∀ s ∈ services, s ∉ t.services → s ∈ exempt)
        ∧ ∀ s ∈ services, s ∈ t.services → s ∈ exempt ∨ t.Passes test s := by
  constructor
  · intro h
    refine ⟨fun s hs huntracked => ?_, fun s hs _ => h s hs⟩
    rcases h s hs with hexempt | hpasses
    · exact hexempt
    · exact absurd (mem_services_of_passes hpasses) huntracked
  · rintro ⟨huntracked, htracked⟩ s hs
    by_cases hmem : s ∈ t.services
    · exact htracked s hs hmem
    · exact .inl (huntracked s hs hmem)

/-- In simulation only tracked services are exempt from the liveness check. -/
theorem mem_ignoreAlive_iff (h : s ∉ c.services) :
    s ∈ c.policy.ignoreAlive ↔ c.simulation = false ∧ s ∈ c.ignoreAlive := by
  rw [Config.policy]
  cases c.simulation with
  | false => simp
  | true => simp [h]

end TopicHealth.Tracker
