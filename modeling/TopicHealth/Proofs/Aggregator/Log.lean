import TopicHealth.Proofs.Aggregator.Turn
import TopicHealth.Proofs.Bus.Reporting
import TopicHealth.Proofs.Report
import TopicHealth.Proofs.Tracker.Log

/-!
# The log of an aggregator

A turn reports what it meets on the bus and then what its tick reports. The first says nothing about a flag, so that
the logs of the turns tell the flags as those of the ticks do.

* `told_of_turn`, `logged_of_turns`: one turn, and turns one after another.
* `flags_of_logs`: the flags by the logs alone.
-/

namespace TopicHealth

namespace Notice

theorem quiet_gateWaiting (endpoint : String) : (gateWaiting endpoint).Quiet :=
  quiet_of_message fun flag value => by
    cases flag <;> cases value <;> simp [message, Flag.message]

theorem quiet_undecodable (endpoint fault : String) : (undecodable endpoint fault).Quiet :=
  quiet_of_message fun flag value => by
    cases flag <;> cases value <;> simp [message, Flag.message]

end Notice

namespace Aggregator

open Notice (said replay)

variable {c : Tracker.Config} {b b' : Bus} {notices : List Notice} {a a' : Aggregator} {turns : List Turn}

/-! ## Ticks -/

/-- One aggregator comes from another by a tick of its tracker, and what is reported besides is about no flag. -/
def Told (a : Aggregator) (log : List Notice) (a' : Aggregator) : Prop :=
  ∃ tick : Tracker.Tick, ∃ quiet, (a.tracker.tick tick.now tick.batch).2 = .ok a'.tracker
    ∧ log = quiet ++ (a.tracker.tick tick.now tick.batch).1 ∧ ∀ n ∈ quiet, n.Quiet

/-- The notices of a tick come after those of what went before it in the turn. -/
theorem tick_told (a : Aggregator) (batch : List (Option Event)) (bus : Bus) (now : Duration) {quiet : List Notice}
    (hquiet : ∀ n ∈ quiet, n.Quiet) : (a.tick batch bus now).Reports fun log a' => a.Told (quiet ++ log) a' := by
  rw [tick]
  split
  · rename_i log tracker htick
    refine ⟨⟨now, batch⟩, quiet, ?_, ?_, hquiet⟩
    · rw [htick]
    · rw [htick]
  · trivial

/-! ## Turns -/

section Clock

variable [Clock]

/-- What a turn reports. -/
def log (a : Aggregator) (turn : Turn) : List Notice :=
  ((a.perform turn.task turn.bus turn.start).run turn.start turn.script).notices

/-- What turns report one after another, as long as they end. -/
def logs (a : Aggregator) : List Turn → List (List Notice)
  | [] => []
  | turn :: rest =>
    a.log turn :: match a.turn turn with
      | some a' => a'.logs rest
      | none => []

section TellsOnly

variable {P : Notice → Prop}

theorem receive_tellsOnly {s : Subscriber} (hgate : P (.gateWaiting s.endpoint))
    (hfault : ∀ fault, P (.undecodable s.endpoint fault)) : (receive s).TellsOnly P := by
  refine (Subscriber.receiveOneOrNone_tellsOnly hgate).bind fun received => ?_
  cases received with
  | ok e => exact Operation.tellsOnly_pure e
  | error fault =>
    have hreport := List.forall_mem_singleton.mpr (hfault fault.message)
    exact (Operation.tellsOnly_report hreport).bind fun _ => Operation.tellsOnly_pure none

/-- Receiving tells of gates and of messages that do not decode. -/
theorem receiveAll_tellsOnly (hgate : ∀ endpoint, P (.gateWaiting endpoint))
    (hfault : ∀ endpoint fault, P (.undecodable endpoint fault)) (subs : List Subscriber) :
    (receiveAll subs).TellsOnly P := by
  induction subs with
  | nil => exact Operation.tellsOnly_pure []
  | cons s rest ih =>
    exact (receive_tellsOnly (hgate s.endpoint) (hfault s.endpoint)).bind fun _ =>
      ih.bind fun _ => Operation.tellsOnly_pure _

end TellsOnly

/-- An update is quiet until it ticks. -/
theorem update_told (a : Aggregator) (timeout : Duration) (bus : Bus) (now : Duration) :
    (a.update timeout bus now).Reports a.Told := by
  have hpoll : (a.poller.poll timeout bus now).Reports fun polled _ => ∀ n ∈ polled, n.Quiet :=
    (a.poller.poll_tellsOnly timeout bus now).reports
  refine hpoll.bind fun polled ready bus now hpolled => ?_
  have hreceive : (receiveAll (ready ++ a.nonPolled) bus now).Reports fun received _ => ∀ n ∈ received, n.Quiet :=
    (receiveAll_tellsOnly Notice.quiet_gateWaiting Notice.quiet_undecodable (ready ++ a.nonPolled) bus now).reports
  refine hreceive.bind fun received batch bus now hreceived => ?_
  simp only [← List.append_assoc]
  refine a.tick_told batch bus now fun n hn => ?_
  rcases List.mem_append.mp hn with hn | hn
  · exact hpolled n hn
  · exact hreceived n hn

/-- A turn is a tick, and reports what the tick does after some notices that are about no flag. -/
theorem told_of_turn {turn : Turn} (h : a.turn turn = some a') : a.Told (a.log turn) a' := by
  have hreports : (a.perform turn.task turn.bus turn.start).Reports a.Told := by
    cases turn.task with
    | tick batch => exact a.tick_told batch turn.bus turn.start (List.forall_mem_nil _)
    | update timeout => exact a.update_told timeout turn.bus turn.start
  rw [Aggregator.turn] at h
  split at h
  · rename_i after hending
    cases h
    exact hreports.of_run hending
  · cases h
  · cases h

/-! ## Runs -/

theorem turns_cons_eq_some_iff {turn : Turn} :
    a.turns (turn :: turns) = some a' ↔ ∃ after, a.turn turn = some after ∧ after.turns turns = some a' := by
  rw [Aggregator.turns, List.foldlM_cons, Option.bind_eq_bind, Option.bind_eq_some_iff]
  rfl

theorem logs_take (a : Aggregator) (turns : List Turn) (k : Nat) : a.logs (turns.take k) = (a.logs turns).take k := by
  induction turns generalizing a k with
  | nil => rw [List.take_nil, logs, List.take_nil]
  | cons turn rest ih =>
    cases k with
    | zero => rfl
    | succ k =>
      rw [List.take_succ_cons, logs, logs, List.take_succ_cons]
      -- A turn that does not end leaves no log, and none after it.
      cases a.turn turn with
      | none => rw [List.take_nil]
      | some after => exact congrArg _ (ih after k)

/-- The logs of turns are those of the ticks that they make, but for notices that are about no flag. -/
theorem logged_of_turns (hnodup : a.tracker.services.Nodup) (h : a.turns turns = some a') :
    a.tracker.Logged (a.logs turns) a'.tracker := by
  induction turns generalizing a with
  | nil =>
    cases h
    exact .nil _
  | cons turn rest ih =>
    obtain ⟨after, hturn, hrest⟩ := turns_cons_eq_some_iff.mp h
    -- A turn tells what its tick tells, after notices of its receives, which are about no flag.
    obtain ⟨tick, quiet, htick, hlog, hquiet⟩ := told_of_turn hturn
    have hticked := Tracker.ticked_of_tick htick
    have hafter : after.tracker.services.Nodup := by
      rw [hticked.services]
      exact hnodup
    have htells := (Tracker.tells_of_tick hnodup htick).quiet_append hquiet
    rw [logs, hturn, hlog]
    exact .cons hticked htells (ih hafter hrest)

/-- The beginning of turns that all end. -/
theorem exists_turns_take (h : a.turns turns = some a') (k : Nat) : ∃ after, a.turns (turns.take k) = some after := by
  rw [← List.take_append_drop k turns, Aggregator.turns, List.foldlM_append, Option.bind_eq_bind,
    Option.bind_eq_some_iff] at h
  obtain ⟨after, htake, -⟩ := h
  exact ⟨after, htake⟩

/-- Let an aggregator be opened and take any turns, with any batches and on any bus. For each tracked service and
each of its timing flags: who begins with the flag not set and follows the log of each turn has the flag as it is after
every turn. The log of a turn has at most one line about the flag, which carries the number of the turn's tick. All
lines about the flag, from the first turn to the last, tell by turns that it was set and that it was cleared, beginning
with the former. -/
theorem flags_of_logs (c : Tracker.Config) (b b' : Bus) (notices : List Notice) (a a' : Aggregator)
    (turns : List Turn) (s : Service) (flag : Flag) (hopen : Aggregator.open b c = ⟨b', notices, .ok a⟩)
    (hturns : a.turns turns = some a') (hs : s ∈ c.services) :
    (∀ k, ∃ after st, a.turns (turns.take k) = some after ∧ after.tracker.status? s = some st
        ∧ st.flag flag = replay flag s ((a.logs turns).take k).flatten false)
      ∧ (∀ (k : Nat) log, (a.logs turns)[k]? = some log → (said flag s log).length ≤ 1
        ∧ ∀ n ∈ log, n.says? flag s ≠ none → n.fields.lookup "frame" = some (toString (k : Int)))
      ∧ (false :: said flag s (a.logs turns).flatten).IsChain (· ≠ ·) := by
  have htracker := tracker_of_open hopen
  have hnodup : a.tracker.services.Nodup := by
    rw [htracker, Tracker.services_ofConfig]
    exact ((Tracker.Config.validate_eq_ok_iff c).mp (validate_of_open hopen)).2.2
  have hinitial : a.tracker.status? s = some (Status.initial s) := by
    rw [htracker]
    exact Tracker.status?_ofConfig hs
  have hclear : (Status.initial s).flag flag = false := by
    cases flag <;> rfl
  refine ⟨?_, ?_, ?_⟩
  · intro k
    obtain ⟨after, htake⟩ := exists_turns_take hturns k
    -- The replay is that of the shorter run, whose logs are the first ones of the longer.
    have hlogged := logged_of_turns hnodup htake
    obtain ⟨st, hst, hreplay, -⟩ := hlogged.flags hinitial flag
    rw [hclear, logs_take] at hreplay
    exact ⟨after, st, htake, hst, hreplay.symm⟩
  · intro k log hlog
    obtain ⟨hlength, hdated⟩ := (logged_of_turns hnodup hturns).log hinitial flag hlog
    -- The first tick of an aggregator has the number zero.
    have hframe : a.tracker.frame + 1 + (k : Int) = k := by
      rw [htracker]
      exact Int.zero_add _
    refine ⟨hlength, fun n hn htold => ?_⟩
    rcases hdated n hn with hquiet | hdated
    · exact absurd (hquiet flag s) htold
    · rw [hdated, hframe]
  · obtain ⟨-, -, -, hchain⟩ := (logged_of_turns hnodup hturns).flags hinitial flag
    rw [hclear] at hchain
    exact hchain

end Clock

/-- A service that is held to its rate, and one without a rate. -/
def fadingConfig : Tracker.Config := { services := [.carState, .userFlag] }

/-- An update that finds nothing, one message, and a batch without one long after. -/
def fadingTurns : List Turn :=
  [⟨.update .zero, {}, .zero, []⟩, ⟨.tick [some ⟨7, true, .carState {}⟩], {}, .ofMillis 12500, []⟩,
    ⟨.tick [none], {}, .ofMillis 24500, []⟩]

/-- The lines tell that the service was alive and is not any more, and so it is not. -/
theorem flags_of_fadingTurns : ∃ b notices a a', Aggregator.open {} fadingConfig = ⟨b, notices, .ok a⟩
    ∧ a.turns fadingTurns = some a' ∧ .carState ∈ fadingConfig.services
    ∧ said .alive .carState (a.logs fadingTurns).flatten = [true, false]
    ∧ ∃ st, a'.tracker.status? .carState = some st ∧ st.alive = false := by
  have hconfig : fadingConfig.validate = .ok () := (Tracker.Config.validate_eq_ok_iff fadingConfig).mpr (by decide)
  have hreached : ∃ b notices a a', Aggregator.open {} fadingConfig = ⟨b, notices, .ok a⟩
      ∧ a.turns fadingTurns = some a'
      ∧ said .alive .carState (a.logs fadingTurns).flatten = [true, false] := by
    rw [Aggregator.open, hconfig]
    exact ⟨_, _, _, _, rfl, rfl, by decide⟩
  obtain ⟨b, notices, a, a', hopen, hturns, hsaid⟩ := hreached
  have hs : Service.carState ∈ fadingConfig.services := List.mem_cons_self
  obtain ⟨hflags, -, -⟩ := flags_of_logs fadingConfig {} b notices a a' fadingTurns .carState .alive hopen hturns hs
  obtain ⟨after, st, hafter, hst, halive⟩ := hflags 3
  have htake : (a.logs fadingTurns).take 3 = a.logs fadingTurns := by
    rw [← logs_take]
    rfl
  cases hturns.symm.trans hafter
  rw [htake, Notice.replay_eq_of_said, hsaid] at halive
  exact ⟨b, notices, a, a', hopen, hturns, hs, hsaid, st, hst, halive⟩

end Aggregator

end TopicHealth
