import TopicHealth.Proofs.Aggregator.Update
import TopicHealth.Proofs.Bus.Gate

/-!
# Updates at gates

Gates hold the updates of an aggregator up and do nothing else: an update that ends on a bus with gates ends without
them, with the same aggregator. What is known of buses without gates is therefore known of all.

* `update_heldUpOnly`: one update.
* `step_ungated`: one move that does not set the gates.
-/

namespace TopicHealth.Aggregator

variable {b b' : Bus} {a a' : Aggregator}

/-! ## Updates -/

theorem receive_heldUpOnly [Clock] (s : Subscriber) : (receive s).HeldUpOnly := by
  rw [receive]
  refine s.receiveOneOrNone_heldUpOnly.bind fun received => ?_
  cases received with
  | ok e => exact Operation.heldUpOnly_pure e
  | error fault => exact (Operation.heldUpOnly_report _).bind fun _ => Operation.heldUpOnly_pure none

theorem receiveAll_heldUpOnly [Clock] (subs : List Subscriber) : (receiveAll subs).HeldUpOnly := by
  induction subs with
  | nil => exact Operation.heldUpOnly_pure []
  | cons s rest ih =>
    exact (receive_heldUpOnly s).bind fun _ => ih.bind fun _ => Operation.heldUpOnly_pure _

theorem tick_heldUpOnly (a : Aggregator) (batch : List (Option Event)) : (a.tick batch).HeldUpOnly := by
  intro bus now value bus' now' hend
  rw [Operation.alone?, tick] at hend
  rw [Operation.alone?, tick]
  split at hend
  · cases hend
    rfl
  · cases hend

/-- An update waits at the gates of the services that it reads, and is the same apart from that. -/
theorem update_heldUpOnly [Clock] (a : Aggregator) (timeout : Duration) : (a.update timeout).HeldUpOnly :=
  (a.poller.poll_heldUpOnly timeout).bind fun ready =>
    (receiveAll_heldUpOnly (ready ++ a.nonPolled)).bind fun batch => a.tick_heldUpOnly batch

/-! ## Moves -/

/-- As a move an update goes on alone: the others stand still meanwhile. -/
theorem step_update [Clock] (b : Bus) (a : Aggregator) (start timeout : Duration) :
    step (b, a) (.update start timeout) =
      ((a.update timeout).alone? b start).map fun (a, b, _) => (b, a) := by
  rw [step, Operation.alone?, Call.alone?]
  cases ((a.update timeout b start).run start []).ending <;> rfl

/-- The move leaves the gates alone. -/
def Move.KeepsGates : Move → Prop
  | .act (.setGates _) => False
  | _ => True

/-- What keeps the gates does not depend on them. -/
theorem act_ungated {action : Bus.Action} (h : (Move.act action).KeepsGates) (b : Bus) :
    b.ungated.act action = (b.act action).ungated := by
  cases action with
  | openPublisher endpoint =>
    rw [Bus.act, Bus.bus_openPublisher, Bus.act, Bus.bus_openPublisher]
    rfl
  | subscribe endpoint addr conflate =>
    simp only [Bus.act, Bus.subscribe]
    cases IpAddress.parse? addr <;> rfl
  | setGates gates => cases h
  | closePublisher | send | retain | release | take | setSignals => rfl

/-- Whatever a move does on a bus with gates, it does without them, unless it sets them. -/
theorem step_ungated [Clock] {move : Move} (hkeeps : move.KeepsGates) (h : step (b, a) move = some (b', a')) :
    step (b.ungated, a) move = some (b'.ungated, a') := by
  cases move with
  | act action =>
    cases h
    rw [step, act_ungated hkeeps]
  | update start timeout =>
    rw [step_update, Option.map_eq_some_iff] at h
    obtain ⟨⟨after, bus, now⟩, hend, heq⟩ := h
    cases heq
    rw [step_update, update_heldUpOnly a timeout b start a' b' now hend]
    rfl

end TopicHealth.Aggregator
