import TopicHealth.Proofs.Aggregator.Turn
import TopicHealth.Proofs.Bus.Terms
import TopicHealth.Proofs.Tracker.Rate

/-!
# Aggregators on a clock

On a clock that does not go back every update of an aggregator that was opened goes through: the times of its ticks are
in order, so that the intervals between the messages of a service add up to no more than the clock has counted.

* `Timed`: where an aggregator has got to by an instant.
* `Timed.exists_tick`: the next tick.
* `update_abides`: updates wait only so often, and end.
-/

namespace TopicHealth.Aggregator

variable {T : Terms} {c : Tracker.Config} {a a' : Aggregator} {now now' : Duration}

/-- How often an update waits at most: for a message, and at the gate of every subscriber. -/
def waits (a : Aggregator) : Nat := 1 + (a.poller.subscribers.length + a.nonPolled.length)

/-- What has become of an aggregator by an instant: its tracker has made ticks at instants in order, none of which is
later. -/
structure Timed (c : Tracker.Config) (a : Aggregator) (now : Duration) (a' : Aggregator) : Prop where
  ticks : ∃ ticks : List Tracker.Tick, Tracker.Ordered ticks ∧ (∀ tick ∈ ticks, tick.now ≤ now)
    ∧ (Tracker.ofConfig c).run ticks = .ok a'.tracker
  rest : a' = { a with tracker := a'.tracker }

/-- No service has been heard of yet, so any instant will do for the start. -/
theorem timed_of_open {b b' : Bus} {notices : List Notice} (h : Aggregator.open b c = ⟨b', notices, .ok a⟩)
    (now : Duration) : Timed c a now a := by
  refine ⟨⟨[], List.Pairwise.nil, ?_, ?_⟩, rfl⟩
  · intro tick htick
    cases htick
  · rw [tracker_of_open h]
    rfl

namespace Timed

theorem mono (h : Timed c a now a') (hle : now ≤ now') : Timed c a now' a' := by
  obtain ⟨⟨ticks, hordered, hbefore, hrun⟩, hrest⟩ := h
  exact ⟨⟨ticks, hordered, fun tick htick => Nat.le_trans (hbefore tick htick) hle, hrun⟩, hrest⟩

theorem policy (h : Timed c a now a') : a'.tracker.policy = c.policy := by
  obtain ⟨⟨ticks, -, -, hrun⟩, -⟩ := h
  exact (Tracker.ran_of_run hrun).policy

/-- The bound on the waits of an update stays the same. -/
theorem waits_eq (h : Timed c a now a) (h' : Timed c a now' a') : a'.waits = a.waits := by
  have hsubscribers : a'.subscribers = a.subscribers := by
    rw [h'.rest]
  have hpoller : a'.poller = a.poller := by
    rw [h'.rest]
  rw [waits, waits, nonPolled, nonPolled, hsubscribers, hpoller, h.policy, h'.policy]

/-- The next tick goes through. -/
theorem exists_tick (hnodup : c.services.Nodup) (h : Timed c a now a') (hle : now ≤ now')
    (batch : List (Option Event)) :
    ∃ t, (a'.tracker.tick now' batch).2 = .ok t ∧ Timed c a now' { a' with tracker := t } := by
  obtain ⟨⟨ticks, hordered, hbefore, hrun⟩, hrest⟩ := h
  have hbefore' : ∀ tick ∈ ticks, tick.now ≤ now' := fun tick htick => Nat.le_trans (hbefore tick htick) hle
  have hordered' : Tracker.Ordered (ticks ++ [⟨now', batch⟩]) := by
    rw [Tracker.Ordered, List.map_append, List.pairwise_append]
    refine ⟨hordered, List.pairwise_singleton _ _, ?_⟩
    intro t ht u hu
    obtain ⟨tick, htick, rfl⟩ := List.mem_map.mp ht
    rw [List.mem_singleton.mp hu]
    exact hbefore' tick htick
  -- Ticks in order go through as a whole, and the last of them is the new one.
  obtain ⟨t, hrun'⟩ := Tracker.exists_run hnodup hordered'
  obtain ⟨before, hrunBefore, htick⟩ := Tracker.run_concat_eq_ok_iff.mp hrun'
  cases hrun.symm.trans hrunBefore
  refine ⟨t, htick, ⟨_, hordered', ?_, hrun'⟩, ?_⟩
  · intro tick htick
    rcases List.mem_append.mp htick with htick | htick
    · exact hbefore' tick htick
    · rw [List.mem_singleton.mp htick]
      exact Nat.le_refl _
  · rw [hrest]

end Timed

/-! ## Updates -/

theorem receive_abides [Clock] (T : Terms) (s : Subscriber) : (receive s).Abides T 1 := by
  have hreceive : s.receiveOneOrNone.Abides T 1 := (s.receive_abides T).bind fun _ => Operation.abides_pure _
  refine Operation.Abides.bind (k := 1) (l := 0) hreceive fun received => ?_
  cases received with
  | ok e => exact Operation.abides_pure e
  | error fault => exact (Operation.abides_report _).bind fun _ => Operation.abides_pure none

/-- The receives of an update wait at one gate each, if at all. -/
theorem receiveAll_abides [Clock] (T : Terms) (subs : List Subscriber) : (receiveAll subs).Abides T subs.length := by
  induction subs with
  | nil => exact Operation.abides_pure []
  | cons s rest ih =>
    rw [List.length_cons, Nat.add_comm]
    exact (receive_abides T s).bind fun _ => ih.bind fun _ => Operation.abides_pure _

/-- The clock has counted at least the intervals that a tick adds up, so that no mean is beyond the range. -/
theorem tick_abides (hnodup : c.services.Nodup) (h : Timed c a now a') (hle : now ≤ now')
    (batch : List (Option Event)) {bus : Bus} (hbus : T.bus bus) :
    (a'.tick batch bus now').Abides T (Timed c a) 0 now' := by
  obtain ⟨t, htick, htimed⟩ := h.exists_tick hnodup hle batch
  rw [tick]
  split
  · rename_i notices tracker heq
    rw [heq] at htick
    cases htick
    exact ⟨hbus, htimed⟩
  · rename_i notices heq
    rw [heq] at htick
    cases htick

/-- An update that finds the bus on its terms ends, after so many waits at most. -/
theorem update_abides [Clock] (hnodup : c.services.Nodup) (h : Timed c a now a') {timeout : Duration} {bus : Bus}
    (hbus : T.bus bus) (hwait : T.wait (.unread a'.poller.readers (now.later? timeout))) :
    (a'.update timeout bus now).Abides T (Timed c a) a'.waits now := by
  -- One wait is that of the poll; the others are at the gates of those that are received from.
  refine (a'.poller.poll_abides hbus hwait).bind fun ready bus now' hbus hnow hready => ?_
  have hlength : (ready ++ a'.nonPolled).length + 0 ≤ a'.poller.subscribers.length + a'.nonPolled.length := by
    rw [List.length_append]
    omega
  have hreceive := receiveAll_abides T (ready ++ a'.nonPolled) bus now' hbus
  refine (hreceive.bind fun batch bus later hbus hlater _ => ?_).mono hlength
  exact tick_abides hnodup h (Nat.le_trans hnow hlater) batch hbus

end TopicHealth.Aggregator
