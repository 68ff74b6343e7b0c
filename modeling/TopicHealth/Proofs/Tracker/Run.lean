import Mathlib.Data.List.Induction
import TopicHealth.Proofs.Tracker.Tick

/-!
# Runs of ticks

Ticks one after another make a run. Along a run the status of each service goes its own way, by the ticks alone, so
that a fact about it needs to be shown of one status and one tick only.

* `ran_of_run`: what is the same after every run from a configuration.
* `status_of_run`: the induction over a run, for one service.
* `judged_of_run`: what the flags of a service say right after a tick.
-/

namespace TopicHealth.Tracker

/-- One tick: its time and its batch. -/
structure Tick where
  now : Duration
  batch : List (Option Event)

/-- What ticks make of a tracker, one after another. -/
def run (t : Tracker) (ticks : List Tick) : Except Ring.MeanFault Tracker :=
  ticks.foldlM (fun t tick => (t.tick tick.now tick.batch).2) t

variable {c : Config} {p : Policy} {s : Service} {ticks : List Tick} {t t' : Tracker}

/-- The first tick of a run comes before a run of the others. -/
theorem run_cons_eq_ok_iff {tick : Tick} : t.run (tick :: ticks) = .ok t' ↔
    ∃ after, (t.tick tick.now tick.batch).2 = .ok after ∧ after.run ticks = .ok t' := by
  rw [run, List.foldlM_cons, bind_eq_ok]
  rfl

/-- The last tick of a run comes after a run of the others. -/
theorem run_concat_eq_ok_iff {tick : Tick} : t.run (ticks ++ [tick]) = .ok t' ↔
    ∃ before, t.run ticks = .ok before ∧ (before.tick tick.now tick.batch).2 = .ok t' := by
  have hlast : t.run (ticks ++ [tick]) = t.run ticks >>= fun before => (before.tick tick.now tick.batch).2 := by
    simp only [run, List.foldlM_append, List.foldlM_cons, List.foldlM_nil, bind_pure]
  rw [hlast, bind_eq_ok]

/-! ## From a configuration on -/

/-- What is the same after every run from a configuration: the ticks are counted, and nothing else changes of a
tracker but its statuses. -/
structure Ran (c : Config) (ticks : List Tick) (t : Tracker) : Prop where
  frame : t.frame = ticks.length - 1
  policy : t.policy = c.policy
  services : t.services = c.services

theorem services_ofConfig (c : Config) : (ofConfig c).services = c.services := by
  simp [ofConfig, Tracker.services, Function.comp_def]

theorem ran_of_run (h : (ofConfig c).run ticks = .ok t) : Ran c ticks t := by
  induction ticks using List.reverseRecOn generalizing t with
  | nil =>
    cases h
    exact ⟨rfl, rfl, services_ofConfig c⟩
  | append_singleton ticks tick ih =>
    obtain ⟨before, hrun, htick⟩ := run_concat_eq_ok_iff.mp h
    have hbefore := ih hrun
    have hticked := ticked_of_tick htick
    constructor
    case frame =>
      rw [hticked.frame, hbefore.frame, List.length_append, List.length_singleton]
      omega
    case policy => exact hticked.policy.trans hbefore.policy
    case services => exact hticked.services.trans hbefore.services

/-- The number of the tick that comes next. -/
theorem Ran.next (h : Ran c ticks t) : t.frame + 1 = ticks.length := by
  rw [h.frame]
  omega

theorem status?_ofConfig (hs : s ∈ c.services) : (ofConfig c).status? s = some (Status.initial s) := by
  have hkeys : s ∈ (ofConfig c).entries.map (·.1) := by
    simpa [ofConfig] using hs
  obtain ⟨st, hst⟩ := exists_lookup_of_mem hkeys
  obtain ⟨before, after, hentries, -⟩ := List.lookup_eq_some_iff.mp hst
  have hentry : (s, st) ∈ (ofConfig c).entries := by
    rw [hentries]
    simp
  obtain ⟨r, -, hr⟩ := List.mem_map.mp hentry
  cases hr
  exact hst

/-- What holds of the status of a service before the first tick and is kept by each tick holds after every run. -/
theorem status_of_run (I : List Tick → Status → Prop) (hinit : I [] (Status.initial s))
    (hstep : ∀ ticks tick st st', I ticks st →
      c.policy.advance s st tick.now ticks.length tick.batch = .ok st' → I (ticks ++ [tick]) st')
    (h : (ofConfig c).run ticks = .ok t) (hs : s ∈ c.services) : ∃ st, t.status? s = some st ∧ I ticks st := by
  -- The induction takes the last tick off, whose number is that of the ticks before it.
  induction ticks using List.reverseRecOn generalizing t with
  | nil =>
    cases h
    exact ⟨_, status?_ofConfig hs, hinit⟩
  | append_singleton ticks tick ih =>
    obtain ⟨before, hrun, htick⟩ := run_concat_eq_ok_iff.mp h
    obtain ⟨st, hst, hI⟩ := ih hrun
    have hbefore := ran_of_run hrun
    obtain ⟨st', hadvance, hst'⟩ := (ticked_of_tick htick).status hst
    rw [hbefore.policy, hbefore.next] at hadvance
    exact ⟨st', hst', hstep ticks tick st st' hI hadvance⟩

/-! ## Flags -/

/-- The flags of a service are those that its other fields call for at a time. -/
structure Judged (p : Policy) (s : Service) (now : Duration) (st : Status) : Prop where
  alive : st.alive = p.aliveAt s st now
  freqOk : p.keepsRate s st = .ok st.freqOk

/-- Judging changes the flags only. -/
theorem judge_eq_ok {now : Duration} {st st' : Status} (h : p.judge s st now = .ok st') :
    ∃ alive freqOk, st' = { st with alive, freqOk } := by
  obtain ⟨freqOk, -, rfl⟩ := map_eq_ok h
  exact ⟨_, _, rfl⟩

theorem judged_of_judge {now : Duration} {st st' : Status} (h : p.judge s st now = .ok st') :
    Judged p s now st' := by
  obtain ⟨freqOk, hkeeps, rfl⟩ := map_eq_ok h
  -- What is judged by are fields that judging leaves alone.
  exact ⟨rfl, hkeeps⟩

theorem judged_of_run (h : (ofConfig c).run ticks = .ok t) (hs : s ∈ c.services) :
    ∃ st, t.status? s = some st ∧ ∀ tick ∈ ticks.getLast?, Judged c.policy s tick.now st := by
  apply status_of_run _ _ _ h hs
  · intro tick htick
    cases htick
  · intro ticks tick st st' _ hadvance last hlast
    rw [List.getLast?_concat] at hlast
    cases hlast
    exact judged_of_judge hadvance

end TopicHealth.Tracker
