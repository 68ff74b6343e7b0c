import TopicHealth.Proofs.Tracker.Verdict

/-!
# Independence of services

What a tracker knows of a service comes from the times of the ticks, from the messages of that service and from what
the policy says about it. Two trackers may differ in all the rest: in their other services, in the order of them and
in the messages of these.

* `Policy.Alike.advance_eq`: one tick, for one service.
* `Alike.tick`, `Alike.run`: trackers that are alike for a service stay so.
* `status_eq_of_alike`: the status of a service and the verdicts about it after two runs.
-/

namespace TopicHealth.Tracker

variable {p p' : Policy} {s : Service} {st : Status} {now : Duration} {frame : Int}
  {batch batch' : List (Option Event)} {ticks ticks' : List Tick} {t t' u u' : Tracker}

/-! ## Policies -/

/-- Two policies treat a service alike. -/
structure Policy.Alike (s : Service) (p p' : Policy) : Prop where
  nonPolled : s ∈ p.nonPolled ↔ s ∈ p'.nonPolled
  ignoreAlive : s ∈ p.ignoreAlive ↔ s ∈ p'.ignoreAlive
  ignoreAvgFreq : s ∈ p.ignoreAvgFreq ↔ s ∈ p'.ignoreAvgFreq
  ignoreValid : s ∈ p.ignoreValid ↔ s ∈ p'.ignoreValid

theorem contains_congr {services services' : List Service} (h : s ∈ services ↔ s ∈ services') :
    services.contains s = services'.contains s := by
  rw [Bool.eq_iff_iff, List.contains_iff_mem, List.contains_iff_mem]
  exact h

namespace Policy.Alike

variable (h : p.Alike s p')

include h

theorem record_eq (st : Status) (now : Duration) (frame : Int) (e : Event) :
    p.record s st now frame e = p'.record s st now frame e := by
  rw [Policy.record, Policy.record, contains_congr h.ignoreValid]

theorem recordAll_eq (now : Duration) (frame : Int) (events : List Event) (st : Status) :
    p.recordAll s now frame events st = p'.recordAll s now frame events st := by
  induction events generalizing st with
  | nil => rfl
  | cons e events ih =>
    rw [Policy.recordAll, List.foldl_cons, h.record_eq]
    exact ih _

theorem rateCheckApplies_eq (st : Status) : p.rateCheckApplies s st = p'.rateCheckApplies s st := by
  rw [Policy.rateCheckApplies, Policy.rateCheckApplies, contains_congr h.nonPolled, contains_congr h.ignoreAvgFreq,
    contains_congr h.ignoreAlive]

theorem judge_eq (st : Status) (now : Duration) : p.judge s st now = p'.judge s st now := by
  have halive : p.aliveAt s st now = p'.aliveAt s st now := by
    rw [Policy.aliveAt, Policy.aliveAt, contains_congr h.ignoreAlive]
  have hkeeps : p.keepsRate s st = p'.keepsRate s st := by
    rw [Policy.keepsRate, Policy.keepsRate, h.rateCheckApplies_eq]
  rw [Policy.judge, Policy.judge, halive, hkeeps]

/-- What a tick makes of a status depends on the messages of the service only. -/
theorem advance_eq (hevents : eventsOf s batch = eventsOf s batch') (st : Status) (now : Duration) (frame : Int) :
    p.advance s st now frame batch = p'.advance s st now frame batch' := by
  rw [Policy.advance, Policy.advance, hevents, h.recordAll_eq, h.judge_eq]

end Policy.Alike

/-! ## Trackers -/

/-- Two trackers treat a service alike, know the same of it and have made as many ticks. -/
structure Alike (s : Service) (t t' : Tracker) : Prop where
  frame : t.frame = t'.frame
  policy : t.policy.Alike s t'.policy
  status : ∃ st, t.status? s = some st ∧ t'.status? s = some st

/-- Two ticks are at the same time and have the same messages of a service. -/
structure Tick.Alike (s : Service) (tick tick' : Tick) : Prop where
  now : tick.now = tick'.now
  events : eventsOf s tick.batch = eventsOf s tick'.batch

theorem alike_ofConfig {c c' : Config} (hs : s ∈ c.services) (hs' : s ∈ c'.services)
    (hpolicy : c.policy.Alike s c'.policy) : (ofConfig c).Alike s (ofConfig c') :=
  ⟨rfl, hpolicy, _, status?_ofConfig hs, status?_ofConfig hs'⟩

namespace Alike

/-- One tick. -/
theorem tick (h : t.Alike s t') (hevents : eventsOf s batch = eventsOf s batch')
    (htick : (t.tick now batch).2 = .ok u) (htick' : (t'.tick now batch').2 = .ok u') : u.Alike s u' := by
  have hticked := ticked_of_tick htick
  have hticked' := ticked_of_tick htick'
  constructor
  case frame => rw [hticked.frame, hticked'.frame, h.frame]
  case policy =>
    rw [hticked.policy, hticked'.policy]
    exact h.policy
  case status =>
    obtain ⟨st, hst, hst'⟩ := h.status
    obtain ⟨after, hadvance, hafter⟩ := hticked.status hst
    obtain ⟨after', hadvance', hafter'⟩ := hticked'.status hst'
    -- Both statuses advance from the same one by the same messages.
    rw [h.policy.advance_eq hevents, h.frame, hadvance'] at hadvance
    cases hadvance
    exact ⟨_, hafter, hafter'⟩

/-- Ticks one after another. -/
theorem run (h : t.Alike s t') (hticks : List.Forall₂ (Tick.Alike s) ticks ticks') (hrun : t.run ticks = .ok u)
    (hrun' : t'.run ticks' = .ok u') : u.Alike s u' := by
  induction hticks generalizing t t' with
  | nil =>
    cases hrun
    cases hrun'
    exact h
  | cons htick _ ih =>
    obtain ⟨next, hnext, hrest⟩ := run_cons_eq_ok_iff.mp hrun
    obtain ⟨next', hnext', hrest'⟩ := run_cons_eq_ok_iff.mp hrun'
    rw [htick.now] at hnext
    exact ih (h.tick htick.events hnext hnext') hrest hrest'

/-! ## Verdicts -/

variable (h : t.Alike s t')

include h

theorem passes_iff (test : Status → Prop) : t.Passes test s ↔ t'.Passes test s := by
  obtain ⟨st, hst, hst'⟩ := h.status
  rw [Passes, Passes, hst, hst']

theorem allAlive_eq : t.allAlive (some [s]) = t'.allAlive (some [s]) := by
  rw [Bool.eq_iff_iff, allAlive_eq_true_iff, allAlive_eq_true_iff]
  simp only [selected, Option.getD_some, List.forall_mem_singleton]
  exact or_congr h.policy.ignoreAlive (h.passes_iff _)

theorem allFreqOk_eq : t.allFreqOk (some [s]) = t'.allFreqOk (some [s]) := by
  rw [Bool.eq_iff_iff, allFreqOk_eq_true_iff, allFreqOk_eq_true_iff]
  simp only [selected, Option.getD_some, List.forall_mem_singleton, h.policy.rateCheckApplies_eq]
  exact h.passes_iff _

theorem allValid_eq : t.allValid (some [s]) = t'.allValid (some [s]) := by
  rw [Bool.eq_iff_iff, allValid_eq_true_iff, allValid_eq_true_iff]
  simp only [selected, Option.getD_some, List.forall_mem_singleton]
  exact or_congr h.policy.ignoreValid (h.passes_iff _)

end Alike

/-- Let two configurations track a service and treat it alike, whatever else they track, and let two runs have ticks
at the same times with the same messages of the service, among any other messages and gaps. As long as both runs go
through, they have the same number of ticks behind them and the whole status of the service is the same, and so are
the verdicts about it. -/
theorem status_eq_of_alike (c c' : Config) (s : Service) (ticks ticks' : List Tick) (t t' : Tracker)
    (hs : s ∈ c.services) (hs' : s ∈ c'.services) (hpolicy : c.policy.Alike s c'.policy)
    (hticks : List.Forall₂ (Tick.Alike s) ticks ticks')
    (hrun : (ofConfig c).run ticks = .ok t) (hrun' : (ofConfig c').run ticks' = .ok t') :
    t.frame = t'.frame ∧ (∃ st, t.status? s = some st ∧ t'.status? s = some st)
      ∧ t.allAlive (some [s]) = t'.allAlive (some [s]) ∧ t.allFreqOk (some [s]) = t'.allFreqOk (some [s])
      ∧ t.allValid (some [s]) = t'.allValid (some [s]) ∧ t.allChecks (some [s]) = t'.allChecks (some [s]) := by
  have halike := (alike_ofConfig hs hs' hpolicy).run hticks hrun hrun'
  have hchecks : t.allChecks (some [s]) = t'.allChecks (some [s]) := by
    rw [allChecks, allChecks, halike.allAlive_eq, halike.allFreqOk_eq, halike.allValid_eq]
  exact ⟨halike.frame, halike.status, halike.allAlive_eq, halike.allFreqOk_eq, halike.allValid_eq, hchecks⟩

/-- A tracker of one service. -/
def soloConfig : Config := { services := [.pandaStates], ignoreValid := [.carState] }

/-- A tracker of the same service among others, of which one is not waited for. -/
def crowdedConfig : Config :=
  { services := [.userFlag, .carState, .pandaStates], poll := some [.pandaStates, .carState],
    ignoreAlive := [.carState] }

/-- Two messages in one tick, and a silent tick. -/
def soloTicks : List Tick :=
  [⟨.ofMillis 8100, [some ⟨3, true, .pandaStates []⟩, some ⟨4, false, .pandaStates []⟩]⟩, ⟨.ofMillis 8200, []⟩]

/-- The same messages among others. -/
def crowdedTicks : List Tick :=
  [⟨.ofMillis 8100, [some ⟨1, true, .userFlag⟩, some ⟨3, true, .pandaStates []⟩, none, some ⟨2, true, .modelV2 {}⟩,
      some ⟨4, false, .pandaStates []⟩]⟩,
    ⟨.ofMillis 8200, [none, some ⟨5, false, .carState {}⟩]⟩]

/-- The service has the same status in the crowd, and the verdict about it is the same. -/
theorem status_of_crowdedTicks : ∃ t t' st, (ofConfig soloConfig).run soloTicks = .ok t
    ∧ (ofConfig crowdedConfig).run crowdedTicks = .ok t' ∧ t.frame = t'.frame
    ∧ t.status? .pandaStates = some st ∧ t'.status? .pandaStates = some st
    ∧ t.allChecks (some [.pandaStates]) = t'.allChecks (some [.pandaStates]) := by
  have hgoes : ∃ t t', (ofConfig soloConfig).run soloTicks = .ok t
      ∧ (ofConfig crowdedConfig).run crowdedTicks = .ok t' := ⟨_, _, rfl, rfl⟩
  obtain ⟨t, t', hrun, hrun'⟩ := hgoes
  have hpolicy : soloConfig.policy.Alike .pandaStates crowdedConfig.policy := by
    constructor <;> decide
  have hticks : List.Forall₂ (Tick.Alike .pandaStates) soloTicks crowdedTicks :=
    .cons ⟨rfl, by decide⟩ (.cons ⟨rfl, by decide⟩ .nil)
  obtain ⟨hframe, ⟨st, hst, hst'⟩, -, -, -, hchecks⟩ := status_eq_of_alike soloConfig crowdedConfig .pandaStates
    soloTicks crowdedTicks t t' (by decide) (by decide) hpolicy hticks hrun hrun'
  exact ⟨t, t', st, hrun, hrun', hframe, hst, hst', hchecks⟩

end TopicHealth.Tracker
