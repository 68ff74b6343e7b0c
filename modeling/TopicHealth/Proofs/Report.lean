import TopicHealth.Proofs.Aggregator.Turn
import TopicHealth.Report

/-!
# Reports and verdicts

A report asks about each service by itself, and a verdict about many services at once. The two agree on every tracker,
before the first tick as well: what is exempt is passed over in the same way whether one service is asked about or many.

* `Tracker.allChecks_iff_each`: a verdict on some services by the verdicts on each.
* `Report.isHealthy_ofTracker`, `Report.failing_ofTracker`, `Report.get?_ofTracker`: what a report says.
* `Aggregator.report_agrees`: reports of an aggregator after any turns.
-/

namespace TopicHealth

/-! ## One service and many -/

namespace Tracker

variable {t : Tracker} {selection : Option (List Service)}

theorem selected_singleton (s : Service) : t.selected (some [s]) = [s] := rfl

/-- A verdict that asks something of each service it is about is that on each of them alone. -/
theorem verdict_iff_each {verdict : Option (List Service) → Bool} {P : Service → Prop}
    (h : ∀ selection, verdict selection = true ↔ ∀ s ∈ t.selected selection, P s) :
    verdict selection = true ↔ ∀ s ∈ t.selected selection, verdict (some [s]) = true := by
  rw [h]
  refine forall₂_congr fun s _ => ?_
  rw [h, selected_singleton, List.forall_mem_singleton]

/-- The checks of a selection are those of its services one by one. -/
theorem allChecks_iff_each : t.allChecks selection = true ↔
    ∀ s ∈ t.selected selection,
      t.allAlive (some [s]) = true ∧ t.allFreqOk (some [s]) = true ∧ t.allValid (some [s]) = true := by
  have halive : t.allAlive selection = true ↔ ∀ s ∈ t.selected selection, t.allAlive (some [s]) = true :=
    verdict_iff_each fun _ => allAlive_eq_true_iff
  have hfreqOk : t.allFreqOk selection = true ↔ ∀ s ∈ t.selected selection, t.allFreqOk (some [s]) = true :=
    verdict_iff_each fun _ => allFreqOk_eq_true_iff
  have hvalid : t.allValid selection = true ↔ ∀ s ∈ t.selected selection, t.allValid (some [s]) = true :=
    verdict_iff_each fun _ => allValid_eq_true_iff
  rw [allChecks_eq_true_iff, halive, hfreqOk, hvalid]
  constructor
  · rintro ⟨ha, hf, hv⟩ s hs
    exact ⟨ha s hs, hf s hs, hv s hs⟩
  · intro h
    exact ⟨fun s hs => (h s hs).1, fun s hs => (h s hs).2.1, fun s hs => (h s hs).2.2⟩

end Tracker

/-! ## Reports -/

/-- The verdicts of a tracker on one service. -/
def Tracker.health (t : Tracker) (s : Service) : Health :=
  ⟨s, t.allAlive (some [s]), t.allFreqOk (some [s]), t.allValid (some [s])⟩

/-- A service is healthy where all the checks pass for it alone. -/
@[simp] theorem Tracker.isHealthy_health (t : Tracker) (s : Service) :
    (t.health s).isHealthy = t.allChecks (some [s]) := rfl

namespace Report

variable {t : Tracker}

theorem services_ofTracker (t : Tracker) : (ofTracker t).services = t.services.map t.health := rfl

/-- The report is healthy when all checks of all services pass. -/
theorem isHealthy_ofTracker (t : Tracker) : (ofTracker t).isHealthy = t.allChecks none := by
  rw [Bool.eq_iff_iff, isHealthy, services_ofTracker, List.all_map, List.all_eq_true, Tracker.allChecks_iff_each]
  refine forall₂_congr fun s _ => ?_
  rw [Function.comp_apply, Tracker.isHealthy_health, Tracker.allChecks_eq_true_iff]

/-- Those services fail in a report that fail a check by themselves. -/
theorem failing_ofTracker (t : Tracker) : (ofTracker t).failing =
    (t.services.filter fun s => !t.allChecks (some [s])).map t.health := by
  rw [failing, services_ofTracker, List.filter_map]
  rfl

/-- A report has the verdicts on a service where it is tracked. -/
theorem get?_ofTracker (t : Tracker) (s : Service) :
    (ofTracker t).get? s = if s ∈ t.services then some (t.health s) else none := by
  rw [get?, services_ofTracker, List.find?_map]
  have hsame : ((fun h : Health => decide (h.service = s)) ∘ t.health) = fun r => decide (r = s) := rfl
  rw [hsame]
  cases hfound : t.services.find? fun r => decide (r = s) with
  | some r =>
    -- What is found is found for the service itself.
    have heq : r = s := by simpa using List.find?_some hfound
    subst heq
    rw [if_pos (List.mem_of_find?_eq_some hfound), Option.map_some]
  | none =>
    rw [List.find?_eq_none] at hfound
    have hs : s ∉ t.services := fun hmem => hfound s hmem (decide_eq_true rfl)
    rw [if_neg hs, Option.map_none]

end Report

/-! ## Aggregators -/

namespace Aggregator

variable {c : Tracker.Config} {b b' : Bus} {notices : List Notice} {a : Aggregator}

theorem validate_of_open (h : Aggregator.open b c = ⟨b', notices, .ok a⟩) : c.validate = .ok () := by
  unfold Aggregator.open at h
  split at h
  · cases h
  · assumption

/-- Let an aggregator be opened and take any turns, or none. All the checks pass for some services, whichever they
are, exactly when each check passes for each of them alone. Its report has the tracked services, once each and in their
order. The report is healthy when all the checks pass for all services; those that fail in it are, in their order,
those for which the checks do not all pass; and it has the three verdicts on a service exactly when that is tracked. -/
theorem report_agrees [Clock] (c : Tracker.Config) (b b' : Bus) (notices : List Notice) (a a' : Aggregator)
    (turns : List Turn) (hopen : Aggregator.open b c = ⟨b', notices, .ok a⟩) (hturns : a.turns turns = some a') :
    let t := a'.tracker
    let report := Report.ofTracker t
    (∀ selection, t.allChecks selection = true ↔ ∀ s ∈ selection.getD c.services,
        t.allAlive (some [s]) = true ∧ t.allFreqOk (some [s]) = true ∧ t.allValid (some [s]) = true)
      ∧ report.services.map Health.service = c.services ∧ c.services.Nodup
      ∧ report.isHealthy = t.allChecks none
      ∧ report.failing.map Health.service = (c.services.filter fun s => !t.allChecks (some [s]))
      ∧ ∀ s, ((report.get? s).isSome = true ↔ s ∈ c.services)
        ∧ ∀ h, report.get? s = some h → h.service = s ∧ h.alive = t.allAlive (some [s])
          ∧ h.freqOk = t.allFreqOk (some [s]) ∧ h.valid = t.allValid (some [s])
          ∧ h.isHealthy = t.allChecks (some [s]) := by
  intro t report
  -- The turns are ticks to the tracker, which keeps the services that it was made with.
  obtain ⟨ticks, -, hrun⟩ := reached_of_turns hopen hturns
  have hservices : t.services = c.services := (Tracker.ran_of_run hrun).services
  have hnodup := ((Tracker.Config.validate_eq_ok_iff c).mp (validate_of_open hopen)).2.2
  have hname : ∀ services : List Service, (services.map t.health).map Health.service = services := by
    intro services
    rw [List.map_map]
    exact List.map_id services
  refine ⟨?_, ?_, hnodup, Report.isHealthy_ofTracker t, ?_, ?_⟩
  · intro selection
    rw [Tracker.allChecks_iff_each, Tracker.selected, hservices]
  · rw [Report.services_ofTracker, hname, hservices]
  · rw [Report.failing_ofTracker, hname, hservices]
  · intro s
    rw [Report.get?_ofTracker, hservices]
    by_cases hs : s ∈ c.services
    · rw [if_pos hs]
      refine ⟨iff_of_true rfl hs, ?_⟩
      intro h heq
      cases heq
      exact ⟨rfl, rfl, rfl, rfl, rfl⟩
    · rw [if_neg hs]
      refine ⟨iff_of_false Bool.false_ne_true hs, ?_⟩
      intro h heq
      cases heq

/-- A service that is held to its rate, and one without a rate. -/
def slowConfig : Tracker.Config := { services := [.modelV2, .userFlag] }

/-- The first message of the service with a rate comes late. -/
def slowTurns : List Turn := [⟨.tick [some ⟨4, true, .modelV2 {}⟩], {}, .ofMillis 7001, []⟩]

/-- Only the service that came late fails in the report, and one that is not tracked is not in it. -/
theorem report_of_slowTurns : ∃ b notices a a', Aggregator.open {} slowConfig = ⟨b, notices, .ok a⟩
    ∧ a.turns slowTurns = some a'
    ∧ (Report.ofTracker a'.tracker).failing.map Health.service = [.modelV2]
    ∧ (Report.ofTracker a'.tracker).get? .carState = none
    ∧ ¬ a'.tracker.allChecks (some [.userFlag, .modelV2, .userFlag]) = true := by
  have hconfig : slowConfig.validate = .ok () := (Tracker.Config.validate_eq_ok_iff slowConfig).mpr (by decide)
  -- What the one run comes to is computed once; the verdicts follow from the report of any run.
  have hreached : ∃ b notices a a', Aggregator.open {} slowConfig = ⟨b, notices, .ok a⟩
      ∧ a.turns slowTurns = some a'
      ∧ (slowConfig.services.filter fun s => !a'.tracker.allChecks (some [s])) = [.modelV2]
      ∧ a'.tracker.allFreqOk (some [.modelV2]) = false := by
    rw [Aggregator.open, hconfig]
    exact ⟨_, _, _, _, rfl, rfl, by decide +kernel, by decide +kernel⟩
  obtain ⟨b, notices, a, a', hopen, hturns, hfailing, hslow⟩ := hreached
  obtain ⟨hchecks, -, -, -, hreport, hget⟩ := report_agrees slowConfig {} b notices a a' slowTurns hopen hturns
  refine ⟨b, notices, a, a', hopen, hturns, hreport.trans hfailing, ?_, ?_⟩
  · have huntracked : .carState ∉ slowConfig.services := by
      decide
    rw [← Option.not_isSome_iff_eq_none, (hget .carState).1]
    exact huntracked
  · rw [hchecks]
    intro h
    have hfreqOk := (h .modelV2 (by decide)).2.1
    rw [hslow] at hfreqOk
    cases hfreqOk

end Aggregator

end TopicHealth
