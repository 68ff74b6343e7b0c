import TopicHealth.Aggregator
import TopicHealth.Proofs.Bus.Yield
import TopicHealth.Proofs.Tracker.Config
import TopicHealth.Proofs.Tracker.Verdict

/-!
# Turns of an aggregator

An aggregator changes by turns: it is given a batch, or updates from the bus. Whatever bus it finds and whatever
others do meanwhile, a turn that ends is a tick of its tracker, so that what holds after every run of ticks holds of
an aggregator after any turns.

* `exists_tick_of_turn`: one turn.
* `reached_of_turns`: the tracker after any turns of an aggregator that was opened.
* `verdicts_iff_flags`: verdicts about tracked services.
* `verdicts_of_untracked`: verdicts about services of which one is not tracked.
-/

namespace TopicHealth.Aggregator

/-- What an aggregator does in a turn. -/
inductive Task where
  | tick (batch : List (Option Event))
  | update (timeout : Duration)

/-- A turn: its task, the bus and the instant that it finds, and what others do meanwhile. -/
structure Turn where
  task : Task
  bus : Bus
  start : Duration
  script : Script

/-- The operation of a task. -/
def perform [Clock] (a : Aggregator) : Task → Operation Aggregator
  | .tick batch => a.tick batch
  | .update timeout => a.update timeout

/-- The aggregator after a turn, if it ends. -/
def turn [Clock] (a : Aggregator) (turn : Turn) : Option Aggregator :=
  match ((a.perform turn.task turn.bus turn.start).run turn.start turn.script).ending with
  | .done a => some a
  | .broken _ | .stuck => none

/-- The aggregator after turns one after another, if all of them end. -/
def turns [Clock] (a : Aggregator) (turns : List Turn) : Option Aggregator := turns.foldlM turn a

variable {c : Tracker.Config} {b b' : Bus} {notices : List Notice} {a a' : Aggregator}

/-! ## Ticks -/

/-- One aggregator comes from another by a tick of its tracker. -/
def Ticks (a a' : Aggregator) : Prop :=
  ∃ tick : Tracker.Tick, (a.tracker.tick tick.now tick.batch).2 = .ok a'.tracker

theorem tick_yields (a : Aggregator) (batch : List (Option Event)) (bus : Bus) (now : Duration) :
    (a.tick batch bus now).Yields a.Ticks := by
  rw [tick]
  split
  · rename_i notices tracker htick
    exact ⟨⟨now, batch⟩, congrArg Prod.snd htick⟩
  · trivial

/-- An update ticks on whatever it has received. -/
theorem update_yields [Clock] (a : Aggregator) (timeout : Duration) (bus : Bus) (now : Duration) :
    (a.update timeout bus now).Yields a.Ticks := by
  -- Which subscribers are ready and what they receive makes no difference to what follows.
  have hpoll : (a.poller.poll timeout bus now).Yields fun _ => True := Call.yields_true _
  refine hpoll.bind fun ready bus now _ => ?_
  have hreceive : (receiveAll (ready ++ a.nonPolled) bus now).Yields fun _ => True := Call.yields_true _
  exact hreceive.bind fun batch bus now _ => a.tick_yields batch bus now

/-- A turn that ends is a tick, of a batch and at an instant that need not be known. -/
theorem exists_tick_of_turn [Clock] {turn : Turn} (h : a.turn turn = some a') : a.Ticks a' := by
  have hyields : (a.perform turn.task turn.bus turn.start).Yields a.Ticks := by
    cases turn.task with
    | tick batch => exact a.tick_yields batch turn.bus turn.start
    | update timeout => exact a.update_yields timeout turn.bus turn.start
  rw [Aggregator.turn] at h
  split at h
  · rename_i after hending
    cases h
    exact hyields.of_run hending
  · cases h
  · cases h

/-! ## Runs -/

theorem tracker_of_open (h : Aggregator.open b c = ⟨b', notices, .ok a⟩) : a.tracker = Tracker.ofConfig c := by
  unfold Aggregator.open at h
  split at h
  · cases h
  · split at h
    · cases h
    · cases h
      rfl

/-- Turns make a run of as many ticks. -/
theorem exists_run_of_turns [Clock] {turns : List Turn} (h : a.turns turns = some a') :
    ∃ ticks : List Tracker.Tick, ticks.length = turns.length ∧ a.tracker.run ticks = .ok a'.tracker := by
  induction turns using List.reverseRecOn generalizing a' with
  | nil =>
    cases h
    exact ⟨[], rfl, rfl⟩
  | append_singleton turns turn ih =>
    rw [Aggregator.turns, List.foldlM_append, Option.bind_eq_bind, Option.bind_eq_some_iff] at h
    obtain ⟨before, hbefore, hlast⟩ := h
    have hturn : before.turn turn = some a' := by
      simpa using hlast
    obtain ⟨ticks, hlength, hrun⟩ := ih hbefore
    obtain ⟨tick, htick⟩ := exists_tick_of_turn hturn
    refine ⟨ticks ++ [tick], ?_, Tracker.run_concat_eq_ok_iff.mpr ⟨before.tracker, hrun, htick⟩⟩
    rw [List.length_append, List.length_append, hlength, List.length_singleton, List.length_singleton]

/-- After any turns of an aggregator that was opened its tracker is that of its configuration after as many ticks. -/
theorem reached_of_turns [Clock] {turns : List Turn} (hopen : Aggregator.open b c = ⟨b', notices, .ok a⟩)
    (h : a.turns turns = some a') :
    ∃ ticks : List Tracker.Tick, ticks.length = turns.length ∧ (Tracker.ofConfig c).run ticks = .ok a'.tracker := by
  obtain ⟨ticks, hlength, hrun⟩ := exists_run_of_turns h
  rw [tracker_of_open hopen] at hrun
  exact ⟨ticks, hlength, hrun⟩

/-! ## Verdicts -/

/-- Let an aggregator be opened and take at least one turn, with any batches and on any bus. Asked about tracked
services, any number of times and in any order, or about all of them, its verdicts say what the flags of those
services say: who is exempt makes no difference then that the last turn has not made to the flags. -/
theorem verdicts_iff_flags [Clock] (c : Tracker.Config) (b b' : Bus) (notices : List Notice) (a a' : Aggregator)
    (turns : List Turn) (selection : Option (List Service))
    (hopen : Aggregator.open b c = ⟨b', notices, .ok a⟩) (hturns : a.turns turns = some a') (hne : turns ≠ [])
    (htracked : ∀ s ∈ selection.getD c.services, s ∈ c.services) :
    let all (flag : Status → Bool) := ∀ s ∈ selection.getD c.services,
      ∃ st, a'.tracker.status? s = some st ∧ flag st = true
    (a'.tracker.allAlive selection = true ↔ all Status.alive)
      ∧ (a'.tracker.allFreqOk selection = true ↔ all Status.freqOk)
      ∧ (a'.tracker.allValid selection = true ↔ all Status.valid)
      ∧ (a'.tracker.allChecks selection = true ↔ all Status.alive ∧ all Status.freqOk ∧ all Status.valid) := by
  intro all
  obtain ⟨ticks, hlength, hrun⟩ := reached_of_turns hopen hturns
  have hticks : ticks ≠ [] := by
    rw [← List.length_pos_iff, hlength, List.length_pos_iff]
    exact hne
  -- All services are those of the configuration, whatever the turns were.
  have hselected : a'.tracker.selected selection = selection.getD c.services := by
    rw [Tracker.selected, (Tracker.ran_of_run hrun).services]
  rw [← hselected] at htracked
  have halive := Tracker.allAlive_iff_flags hrun hticks htracked
  have hfreqOk := Tracker.allFreqOk_iff_flags hrun hticks htracked
  have hvalid := Tracker.allValid_iff_flags hrun hticks htracked
  rw [hselected] at halive hfreqOk hvalid
  refine ⟨halive, hfreqOk, hvalid, ?_⟩
  rw [Tracker.allChecks_eq_true_iff, halive, hfreqOk, hvalid]
  rfl

/-- Two services, of which one is exempt from the liveness and the validity checks. -/
def exemptConfig : Tracker.Config :=
  { services := [.carState, .userFlag], ignoreAlive := [.carState, .modelV2], ignoreValid := [.carState, .modelV2] }

/-- An update that finds nothing, and a batch with an invalid message of the exempt service. -/
def exemptTurns : List Turn :=
  [⟨.update .zero, {}, .zero, []⟩, ⟨.tick [some ⟨7, false, .carState {}⟩], {}, .ofMillis 7000, []⟩]

/-- All the checks pass for the services named more than once, and so their flags are set. -/
theorem flags_of_exemptTurns : ∃ b notices a a', Aggregator.open {} exemptConfig = ⟨b, notices, .ok a⟩
    ∧ a.turns exemptTurns = some a' ∧ a'.tracker.allChecks (some [.userFlag, .carState, .userFlag]) = true
    ∧ ∃ st, a'.tracker.status? .carState = some st ∧ st.valid = true := by
  have hconfig : exemptConfig.validate = .ok () := (Tracker.Config.validate_eq_ok_iff exemptConfig).mpr (by decide)
  have hreached : ∃ b notices a a', Aggregator.open {} exemptConfig = ⟨b, notices, .ok a⟩
      ∧ a.turns exemptTurns = some a'
      ∧ a'.tracker.allChecks (some [.userFlag, .carState, .userFlag]) = true := by
    rw [Aggregator.open, hconfig]
    exact ⟨_, _, _, _, rfl, rfl, by decide⟩
  obtain ⟨b, notices, a, a', hopen, hturns, hchecks⟩ := hreached
  have hverdicts := verdicts_iff_flags exemptConfig {} b notices a a' exemptTurns
    (some [.userFlag, .carState, .userFlag]) hopen hturns (List.cons_ne_nil _ _) (by decide)
  obtain ⟨-, -, hflags⟩ := hverdicts.2.2.2.mp hchecks
  exact ⟨b, notices, a, a', hopen, hturns, hchecks, hflags .carState (by decide)⟩

/-- Let an aggregator be opened and take any turns, or none. Asked about services of which one is not tracked, the
rate check fails, and with it all the checks together. The liveness and the validity check are about the other
services where each one that is not tracked is exempt, and fail otherwise; from the liveness check such a service is
exempt only outside simulation. -/
theorem verdicts_of_untracked [Clock] (c : Tracker.Config) (b b' : Bus) (notices : List Notice) (a a' : Aggregator)
    (turns : List Turn) (selection : List Service) (s : Service)
    (hopen : Aggregator.open b c = ⟨b', notices, .ok a⟩) (hturns : a.turns turns = some a')
    (hs : s ∈ selection) (huntracked : s ∉ c.services) :
    a'.tracker.allFreqOk (some selection) = false ∧ a'.tracker.allChecks (some selection) = false
      ∧ (a'.tracker.allAlive (some selection) = true ↔
        (∀ r ∈ selection, r ∉ c.services → c.simulation = false ∧ r ∈ c.ignoreAlive)
          ∧ ∀ r ∈ selection, r ∈ c.services → r ∈ c.policy.ignoreAlive
            ∨ ∃ st, a'.tracker.status? r = some st ∧ st.alive = true)
      ∧ (a'.tracker.allValid (some selection) = true ↔
        (∀ r ∈ selection, r ∉ c.services → r ∈ c.ignoreValid)
          ∧ ∀ r ∈ selection, r ∈ c.services → r ∈ c.ignoreValid
            ∨ ∃ st, a'.tracker.status? r = some st ∧ st.valid = true) := by
  obtain ⟨ticks, -, hrun⟩ := reached_of_turns hopen hturns
  have hran := Tracker.ran_of_run hrun
  have hfreqOk : a'.tracker.allFreqOk (some selection) = false := by
    apply Tracker.allFreqOk_of_not_mem hs
    rw [hran.services]
    exact huntracked
  have hchecks : a'.tracker.allChecks (some selection) = false := by
    rw [Tracker.allChecks, hfreqOk, Bool.and_false, Bool.false_and]
  refine ⟨hfreqOk, hchecks, ?_, ?_⟩
  · rw [Tracker.allAlive_eq_true_iff, Tracker.exempt_or_passes_iff, hran.policy, hran.services]
    -- In simulation no service is exempt by name, only by being tracked.
    refine and_congr_left' (forall₂_congr fun r _ => forall_congr' fun hr => ?_)
    exact Tracker.mem_ignoreAlive_iff hr
  · rw [Tracker.allValid_eq_true_iff, Tracker.exempt_or_passes_iff, hran.policy, hran.services]
    rfl

/-- The exempt service is not tracked, and two of the checks about it pass. -/
theorem verdicts_of_exemptConfig : ∃ b notices a, Aggregator.open {} exemptConfig = ⟨b, notices, .ok a⟩
    ∧ .modelV2 ∉ exemptConfig.services
    ∧ a.tracker.allFreqOk (some [.modelV2]) = false ∧ a.tracker.allChecks (some [.modelV2]) = false
    ∧ a.tracker.allAlive (some [.modelV2]) = true ∧ a.tracker.allValid (some [.modelV2]) = true := by
  have hconfig : exemptConfig.validate = .ok () := (Tracker.Config.validate_eq_ok_iff exemptConfig).mpr (by decide)
  have hopen : ∃ b notices a, Aggregator.open {} exemptConfig = ⟨b, notices, .ok a⟩ := by
    rw [Aggregator.open, hconfig]
    exact ⟨_, _, _, rfl⟩
  obtain ⟨b, notices, a, hopen⟩ := hopen
  have huntracked : ∀ r ∈ [Service.modelV2], r ∉ exemptConfig.services := by
    decide
  have hmodelV2 := huntracked .modelV2 List.mem_cons_self
  obtain ⟨hfreqOk, hchecks, halive, hvalid⟩ := verdicts_of_untracked exemptConfig {} b notices a a [] [.modelV2]
    .modelV2 hopen rfl List.mem_cons_self hmodelV2
  refine ⟨b, notices, a, hopen, hmodelV2, hfreqOk, hchecks, halive.mpr ⟨?_, ?_⟩, hvalid.mpr ⟨?_, ?_⟩⟩
  · decide
  · intro r hr htracked
    exact absurd htracked (huntracked r hr)
  · decide
  · intro r hr htracked
    exact absurd htracked (huntracked r hr)

end TopicHealth.Aggregator
