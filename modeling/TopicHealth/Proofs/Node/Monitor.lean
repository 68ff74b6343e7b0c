import TopicHealth.Node.Monitor
import TopicHealth.Proofs.Aggregator.Clock

/-!
# Monitors on a clock

A monitor breaks down only where an instant that it has to keep is beyond the end of the clock. Told to end, it ends
after a number of turns that only the waits of its update decide.

* `Monitor.Phase.Timed`: where a monitor has got to by an instant.
* `Monitor.Phase.Timed.step`: one turn of a monitor.
* `Monitor.Phase.Timed.exists_due`: a monitor that waits for nothing without end is due some time.
-/

namespace TopicHealth

variable [Clock]

/-- The clock goes on long enough, at an instant, for the next report and the next tick. -/
structure Node.Config.InRange (c : Node.Config) (now : Duration) : Prop where
  reportInterval : now.later? c.reportInterval ≠ none
  tick : now.later? c.tick ≠ none

namespace Monitor

variable {T : Terms} {c : Node.Config} {a : Aggregator} {start before now now' : Duration} {start? : Option Duration}
  {k l : Nat} {m : Monitor} {phase : Phase} {b : Bus} {shutdown : Bool}

/-- What a monitor has become by an instant that began at another with an aggregator. -/
structure Timed (c : Node.Config) (a : Aggregator) (start now : Duration) (m : Monitor) : Prop where
  deadline : m.deadline = c.runFor.bind start.later?
  aggregator : Aggregator.Timed c.tracker a now m.aggregator

theorem Timed.mono (h : m.Timed c a start now) (hle : now ≤ now') : m.Timed c a start now' :=
  ⟨h.deadline, h.aggregator.mono hle⟩

/-- Where a monitor has got to by an instant, when it began, and how many turns it takes at most once it is told to
end. -/
inductive Phase.Timed (T : Terms) (c : Node.Config) (a : Aggregator) :
    Option Duration → Duration → Nat → Phase → Prop
  | idle {now : Duration} {k : Nat} (hk : 0 < k) : Timed T c a none now k (.idle a)
  | asleep {start now : Duration} {k : Nat} {m : Monitor} (hm : m.Timed c a start now) (hk : 0 < k) :
    Timed T c a (some start) now k (.asleep m)
  | updating {start now : Duration} {j k : Nat} {m : Monitor} {reason : Wait}
    {resume : Bus → Duration → Call Aggregator} (hm : m.Timed c a start now) (hnext : m.nextTick ≤ now)
    (hwait : T.wait reason)
    (hcall : ∀ bus now', T.bus bus → now ≤ now' →
      (resume bus now').Abides T (Aggregator.Timed c.tracker a) j now') (hk : j + 1 < k) :
    Timed T c a (some start) now k (.updating m reason resume)
  | ended {start? : Option Duration} {now : Duration} {k : Nat} {report : Report} :
    Timed T c a start? now k (.ended report)

/-- The node shuts down, or the time of a monitor is over. -/
def Told (c : Node.Config) (start? : Option Duration) (shutdown : Bool) (now : Duration) : Prop :=
  shutdown = true ∨ ∃ start span deadline, start? = some start ∧ c.runFor = some span
    ∧ start.later? span = some deadline ∧ deadline ≤ now

/-- The monitor has got somewhere, or it breaks down at an instant that is too near to the end of the clock. -/
def Phase.Follows (T : Terms) (c : Node.Config) (a : Aggregator) (start? : Option Duration) (now : Duration) (k : Nat)
    (phase : Phase) : Prop :=
  phase.Timed T c a start? now k ∨ phase = .broken .clockOverflow ∧ ¬ c.InRange now

theorem Phase.Timed.mono (h : phase.Timed T c a start? now k) (hnow : now ≤ now') (hk : k ≤ l) :
    phase.Timed T c a start? now' l := by
  cases h with
  | idle hpos => exact .idle (Nat.lt_of_lt_of_le hpos hk)
  | asleep hm hpos => exact .asleep (hm.mono hnow) (Nat.lt_of_lt_of_le hpos hk)
  | updating hm hnext hwait hcall hlt =>
    refine .updating (hm.mono hnow) (Nat.le_trans hnext hnow) hwait ?_ (Nat.lt_of_lt_of_le hlt hk)
    intro bus later hbus hlater
    exact hcall bus later hbus (Nat.le_trans hnow hlater)
  | ended => exact .ended

/-- A monitor that has been told to end has been told for good. -/
theorem Told.mono {start?' : Option Duration} {shutdown' : Bool} (h : Told c start? shutdown now)
    (hstart : ∀ start, start? = some start → start?' = some start) (hshutdown : shutdown = true → shutdown' = true)
    (hle : now ≤ now') : Told c start?' shutdown' now' := by
  rcases h with h | ⟨start, span, deadline, hsome, hspan, hdeadline, hnow⟩
  · exact .inl (hshutdown h)
  · exact .inr ⟨start, span, deadline, hstart start hsome, hspan, hdeadline, Nat.le_trans hnow hle⟩

/-! ## Parts of a turn -/

/-- A report changes neither the aggregator nor when the monitor ends and has its next turn. -/
theorem tell_spec (m : Monitor) (interval now : Duration) :
    (∃ notices m', m.tell interval now = (notices, some m') ∧ m'.deadline = m.deadline
        ∧ m'.aggregator = m.aggregator ∧ m'.nextTick = m.nextTick)
      ∨ ∃ notices, m.tell interval now = (notices, none) ∧ now.later? interval = none := by
  rw [tell]
  split_ifs with hdue
  · exact .inl ⟨[], m, rfl, rfl, rfl, rfl⟩
  · cases hnext : now.later? interval with
    | none => exact .inr ⟨_, rfl, rfl⟩
    | some nextReport => exact .inl ⟨_, _, rfl, rfl, rfl, rfl⟩

theorem endTurn_spec (hnext : m.nextTick ≤ now) (c : Node.Config) :
    (∃ m', (m.endTurn c now).2 = .asleep m' ∧ m'.deadline = m.deadline ∧ m'.aggregator = m.aggregator)
      ∨ (m.endTurn c now).2 = .broken .clockOverflow ∧ ¬ c.InRange now := by
  rw [endTurn]
  rcases m.tell_spec c.reportInterval now with ⟨notices, m', htell, hdeadline, haggregator, hnextTick⟩
    | ⟨notices, htell, hover⟩
  · rw [htell]
    dsimp only
    cases htick : m'.nextTick.later? c.tick with
    | none =>
      -- The tick is counted from when the turn was due, which is no later than the present.
      refine .inr ⟨rfl, ?_⟩
      intro hrange
      rw [hnextTick] at htick
      exact Duration.later?_ne_none_of_le hnext hrange.tick htick
    | some next => exact .inl ⟨_, rfl, hdeadline, haggregator⟩
  · rw [htell]
    exact .inr ⟨rfl, fun hrange => hrange.reportInterval hover⟩

/-- A turn goes on from an update that ends, or waits some more. -/
theorem settle_follows (hdeadline : m.deadline = c.runFor.bind start.later?)
    (haggregator : Aggregator.Timed c.tracker a before m.aggregator) (hnext : m.nextTick ≤ now) (hle : before ≤ now)
    {call : Call Aggregator} (h : call.Abides T (Aggregator.Timed c.tracker a) k now) :
    T.bus (m.settle c now call).1 ∧ (m.settle c now call).2.2.Follows T c a (some start) now (k + 1) := by
  cases call with
  | done bus notices value =>
    obtain ⟨hbus, hvalue⟩ := h
    have hend := endTurn_spec (m := { m with aggregator := value }) hnext c
    refine ⟨hbus, ?_⟩
    rcases hend with ⟨m', hasleep, hdeadline', haggregator'⟩ | hbroken
    · refine .inl ?_
      rw [settle]
      dsimp only
      rw [hasleep]
      exact .asleep ⟨hdeadline'.trans hdeadline, haggregator' ▸ hvalue⟩ (Nat.succ_pos k)
    · exact .inr hbroken
  | wait bus notices reason resume =>
    obtain ⟨hbus, hwait, hpos, hresume⟩ := h
    refine ⟨hbus, .inl (.updating ⟨hdeadline, haggregator.mono hle⟩ hnext hwait hresume ?_)⟩
    omega
  | broken => exact h.elim

/-- A turn that is begun ends the monitor, if it is told to, and updates the aggregator otherwise. -/
theorem beginTurn_follows (shutdown : Bool) (hnodup : c.tracker.services.Nodup)
    (ha : Aggregator.Timed c.tracker a now a) (hm : m.Timed c a start now) (hnext : m.nextTick ≤ now) (hbus : T.bus b)
    (hwait : ∀ readers, T.wait (.unread readers (now.later? c.updateTimeout))) :
    T.bus (m.beginTurn c b shutdown now).1
      ∧ (m.beginTurn c b shutdown now).2.2.Follows T c a (some start) now
        (if shutdown || m.deadline.any fun t => decide (t ≤ now) then 0 else a.waits + 1) := by
  cases shutdown with
  | true => exact ⟨hbus, .inl .ended⟩
  | false =>
    rw [Bool.false_or, beginTurn, if_neg Bool.false_ne_true]
    by_cases hover : (m.deadline.any fun t => decide (t ≤ now)) = true
    · rw [if_pos hover, if_pos hover]
      exact ⟨hbus, .inl .ended⟩
    · rw [if_neg hover, if_neg hover]
      have hcall := Aggregator.update_abides hnodup hm.aggregator hbus (hwait _)
      -- Ticks do not change how often an update waits at most.
      rw [ha.waits_eq hm.aggregator] at hcall
      exact settle_follows hm.deadline hm.aggregator hnext (Nat.le_refl _) hcall

/-- The time of a monitor that is told to end is over, unless the node shuts down. -/
theorem Timed.of_told (hm : m.Timed c a start now) (h : Told c (some start) shutdown now) :
    (shutdown || m.deadline.any fun t => decide (t ≤ now)) = true := by
  rcases h with rfl | ⟨start', span, deadline, hstart, hspan, hdeadline, hle⟩
  · rfl
  · cases hstart
    rw [hm.deadline, hspan, Option.bind_some, hdeadline, Option.any_some, decide_eq_true hle, Bool.or_true]

/-! ## Turns -/

/-- What a turn makes of a monitor. Told to end, the monitor has no more turns to take than before, and fewer if the
turn was due. -/
theorem Phase.Timed.step (h : phase.Timed T c a start? before k) (shutdown : Bool)
    (hnodup : c.tracker.services.Nodup) (ha : Aggregator.Timed c.tracker a now a) (hle : before ≤ now) (hbus : T.bus b)
    (hwait : ∀ readers, T.wait (.unread readers (now.later? c.updateTimeout))) :
    T.bus (phase.step c b shutdown now).1 ∧ ∃ k', k' ≤ max k (a.waits + 1)
      ∧ (Told c start? shutdown now → k' ≤ k ∧ ((∃ t, phase.due? b now = some t ∧ t ≤ now) → k' < k))
      ∧ (phase.step c b shutdown now).2.2.Follows T c a (start?.or (some now)) now k' := by
  -- A turn that is begun ends the monitor, or leaves it what an update takes.
  have hbound : ∀ {p : Prop} [Decidable p], (if p then 0 else a.waits + 1) ≤ max k (a.waits + 1) := by
    intro p _
    split_ifs
    · exact Nat.zero_le _
    · exact Nat.le_max_right _ _
  cases h with
  | idle hk =>
    rw [Phase.step]
    cases hreport : now.later? c.reportInterval with
    | none =>
      refine ⟨hbus, 0, Nat.zero_le _, fun _ => ⟨Nat.zero_le _, fun _ => hk⟩, .inr ⟨rfl, ?_⟩⟩
      exact fun hrange => hrange.reportInterval hreport
    | some nextReport =>
      have hm : (⟨a, c.runFor.bind now.later?, now, nextReport, none⟩ : Monitor).Timed c a now now := ⟨rfl, ha⟩
      obtain ⟨hbus', hfollows⟩ := beginTurn_follows shutdown hnodup ha hm (Nat.le_refl _) hbus hwait
      refine ⟨hbus', _, hbound, ?_, hfollows⟩
      -- The monitor has not begun, so that only the node can have told it to end.
      rintro (rfl | ⟨start, span, deadline, hstart, -⟩)
      · exact ⟨Nat.zero_le _, fun _ => hk⟩
      · cases hstart
  | @asleep start _ _ m hm hk =>
    rw [Phase.step]
    split_ifs with hearly
    · -- The turn came too early and does nothing.
      refine ⟨hbus, k, Nat.le_max_left _ _, fun _ => ⟨Nat.le_refl _, ?_⟩, .inl (.asleep (hm.mono hle) hk)⟩
      rintro ⟨t, ht, hdue⟩
      cases ht
      exact absurd hearly (Nat.not_lt.mpr hdue)
    · have hm' := hm.mono hle
      obtain ⟨hbus', hfollows⟩ :=
        beginTurn_follows shutdown hnodup ha hm' (Nat.not_lt.mp hearly) hbus hwait
      refine ⟨hbus', _, hbound, ?_, hfollows⟩
      intro htold
      rw [if_pos (hm'.of_told htold)]
      exact ⟨Nat.zero_le _, fun _ => hk⟩
  | @updating start _ j _ m reason resume hm hnext hreason hcall hk =>
    rw [Phase.step]
    split_ifs with hover
    · obtain ⟨hbus', hfollows⟩ := settle_follows hm.deadline hm.aggregator (Nat.le_trans hnext hle) hle
        (hcall b now hbus hle)
      refine ⟨hbus', j + 1, ?_, fun _ => ⟨Nat.le_of_lt hk, fun _ => hk⟩, hfollows⟩
      exact Nat.le_trans (Nat.le_of_lt hk) (Nat.le_max_left _ _)
    · -- The wait goes on, so that the turn was not due.
      refine ⟨hbus, k, Nat.le_max_left _ _, fun _ => ⟨Nat.le_refl _, ?_⟩, .inl ?_⟩
      · rintro ⟨t, ht, hdue⟩
        rw [Phase.due?, if_neg hover] at ht
        exact absurd (Wait.isOver_of_deadline ht hdue b) hover
      · exact (Phase.Timed.updating hm hnext hreason hcall hk).mono hle (Nat.le_refl _)
  | ended =>
    refine ⟨hbus, k, Nat.le_max_left _ _, fun _ => ⟨Nat.le_refl _, ?_⟩, .inl .ended⟩
    rintro ⟨t, ht, -⟩
    cases ht

theorem Phase.Timed.ne_broken {reason : Breakdown} (h : phase.Timed T c a start? now k) : phase ≠ .broken reason := by
  rintro rfl
  cases h

/-- A monitor that is over has ended, and has no turn left to take. -/
theorem Phase.Timed.of_isOver (h : phase.Timed T c a start? now k) (hover : phase.isOver = true) :
    phase.Timed T c a start? now 0 := by
  cases h with
  | idle | asleep | updating => cases hover
  | ended => exact .ended

/-- A monitor that has no turn left to take has ended. -/
theorem Phase.Timed.exists_ended (h : phase.Timed T c a start? now 0) : ∃ report, phase = .ended report := by
  cases h with
  | idle hk | asleep hm hk => exact absurd hk (Nat.lt_irrefl 0)
  | updating hm hnext hwait hcall hk => exact absurd hk (Nat.not_lt_zero _)
  | ended => exact ⟨_, rfl⟩

/-- A monitor has something to do some time, unless it is over, where no wait is without end. -/
theorem Phase.Timed.exists_due (h : phase.Timed .ungated c a start? before k) (hover : phase.isOver = false) (b : Bus) :
    ∃ now t, phase.due? b now = some t ∧ t ≤ now := by
  cases h with
  | idle hk => exact ⟨before, before, rfl, Nat.le_refl _⟩
  | @asleep _ _ _ m hm hk => exact ⟨m.nextTick, m.nextTick, rfl, Nat.le_refl _⟩
  | @updating _ _ _ _ m reason resume hm hnext hwait hcall hk =>
    obtain ⟨t, ht⟩ := Option.ne_none_iff_exists'.mp hwait
    refine ⟨t, t, ?_, Nat.le_refl _⟩
    rw [Phase.due?, if_pos (Wait.isOver_of_deadline ht (Nat.le_refl _) b)]
  | ended => cases hover

end Monitor

end TopicHealth
