import TopicHealth.Proofs.Bus.Retrieval

/-!
# Receives that may wait

Where a message is there, a receive that may wait for one has nothing to wait for. What it does before it looks is to
form its deadline, and a timeout that ends beyond the clock breaks it down there.

* `Subscriber.receive_unread`, `Subscriber.receive_beyond`: a receive that may wait.
* `Subscriber.blocking_of_unread`: each way to retrieve that may wait, beside the one that does not.
-/

namespace TopicHealth

namespace Operation

variable {α β : Type} {bus : Bus} {now : Duration}

/-- What comes after an operation depends on how that ends only. -/
theorem bind_congr_now {first first' : Operation α} (h : first bus now = first' bus now) (next : α → Operation β) :
    (first >>= next) bus now = (first' >>= next) bus now := by
  change (first bus now).bind now next = (first' bus now).bind now next
  rw [h]

theorem bind_of_broken {first : Operation α} {reason : Breakdown} (h : first bus now = .broken bus [] reason)
    (next : α → Operation β) : (first >>= next) bus now = .broken bus [] reason := by
  change (first bus now).bind now next = _
  rw [h]
  rfl

end Operation

namespace Subscriber

variable {bus : Bus} {now : Duration} {s : Subscriber}

/-- A wait for a message is over where one is there. -/
theorem isOver_of_unread (h : bus.queue s ≠ []) (t? : Option Duration) :
    (Wait.unread [s.reader] t?).isOver bus now = true := by
  cases hr : bus.reader? s.reader with
  | none =>
    rw [Bus.queue, hr] at h
    exact absurd rfl h
  | some r =>
    rw [Bus.queue_of_reader? hr] at h
    have hany : (bus.readers.any fun r => [s.reader].contains r.id && !r.queue.isEmpty) = true := by
      refine List.any_eq_true.mpr ⟨r, List.mem_of_find?_eq_some hr, ?_⟩
      simp [Bus.id_of_reader? hr, h]
    rw [Wait.isOver, hany, Bool.true_or]

section Clock

variable [Clock]

/-- The timeout of a subscriber, if it has one, ends on the clock for a receive that begins at an instant. -/
def EndsOnClock (s : Subscriber) (now : Duration) : Prop := ∀ t ∈ s.timeout, now.later? t ≠ none

/-! ## One receive -/

/-- A timeout that ends on the clock, or none, makes a deadline, or none. -/
theorem exists_deadline (h : s.EndsOnClock now) : ∃ t?, s.deadline bus now = .done bus [] t? := by
  cases htimeout : s.timeout with
  | none =>
    refine ⟨none, ?_⟩
    rw [deadline, htimeout]
    rfl
  | some t =>
    obtain ⟨end?, hend⟩ := Option.ne_none_iff_exists'.mp (h t htimeout)
    have hclock : Operation.clock bus now = .done bus [] now := rfl
    refine ⟨some end?, ?_⟩
    rw [deadline, htimeout]
    dsimp only
    rw [Operation.bind_of_done_nil hclock, hend]
    rfl

/-- The instant is not representable, and computing it is what breaks the call down. -/
theorem deadline_beyond (h : ¬ s.EndsOnClock now) : s.deadline bus now = .broken bus [] .clockOverflow := by
  rw [EndsOnClock] at h
  push Not at h
  obtain ⟨t, htimeout, hend⟩ := h
  have hclock : Operation.clock bus now = .done bus [] now := rfl
  rw [deadline, Option.mem_def.mp htimeout]
  dsimp only
  rw [Operation.bind_of_done_nil hclock, hend]
  rfl

/-- Where a message is there and the timeout ends on the clock, it makes no difference whether a receive may wait. -/
theorem receive_unread (hungated : bus.gates.active = false) (hunread : bus.queue s ≠ []) (h : s.EndsOnClock now) :
    s.receive false bus now = s.receive true bus now := by
  obtain ⟨t?, hdeadline⟩ : ∃ t?, s.deadline bus now = .done bus [] t? := exists_deadline h
  have hawait : Operation.await (.unread [s.reader] t?) bus now = .done bus [] () := by
    rw [Operation.await, if_pos (isOver_of_unread hunread t?)]
  have hgate : passGate s.endpoint bus now = .done bus [] () := passGate_of_inactive s.endpoint hungated
  calc s.receive false bus now
      = (s.deadline >>= fun t? => Operation.await (.unread [s.reader] t?) >>= fun _ => s.takeNow) bus now :=
        Operation.bind_of_done_nil hgate
    _ = (Operation.await (.unread [s.reader] t?) >>= fun _ => s.takeNow) bus now :=
        Operation.bind_of_done_nil hdeadline
    _ = .done (bus.take s).2 [] (bus.queue s).head? := Operation.bind_of_done_nil hawait
    _ = s.receive true bus now := (s.receive_now hungated).symm

/-- A receive that may wait does not come to look for a message where its timeout ends beyond the clock. -/
theorem receive_beyond (hungated : bus.gates.active = false) (h : ¬ s.EndsOnClock now) :
    s.receive false bus now = .broken bus [] .clockOverflow := by
  have hgate : passGate s.endpoint bus now = .done bus [] () := passGate_of_inactive s.endpoint hungated
  rw [receive, Operation.bind_of_done_nil hgate]
  exact Operation.bind_of_broken (deadline_beyond h) _

/-! ## All ways to retrieve -/

/-- Two ways to retrieve at an instant, of which the first may wait. The second ends without waiting, and the first ends
with it, with the same value, bus and notices, if the timeout ends on the clock; if it does not, the first breaks down
and has done nothing. -/
structure Coincide {α : Type} (s : Subscriber) (bus : Bus) (now : Duration) (blocking nonBlocking : Operation α) :
    Prop where
  ends : ∃ bus' notices value, nonBlocking bus now = .done bus' notices value
  same : s.EndsOnClock now → blocking bus now = nonBlocking bus now
  beyond : ¬ s.EndsOnClock now → blocking bus now = .broken bus [] .clockOverflow

/-- The deadline is computed before the queue is looked at, and the message that is there ends the wait at once. -/
theorem coincide_receive (hungated : bus.gates.active = false) (hunread : bus.queue s ≠ []) :
    s.Coincide bus now (s.receive false) (s.receive true) where
  ends := ⟨_, _, _, s.receive_now hungated⟩
  same := receive_unread hungated hunread
  beyond := receive_beyond hungated

/-- Going on makes no difference where both go on in the same way from where the one that does not wait ends. -/
theorem Coincide.bind {α β : Type} {blocking nonBlocking : Operation α} {next next' : α → Operation β}
    (h : s.Coincide bus now blocking nonBlocking)
    (hends : ∃ bus' notices value, (nonBlocking >>= next') bus now = .done bus' notices value)
    (hnext : ∀ bus' notices value, nonBlocking bus now = .done bus' notices value →
      next value bus' now = next' value bus' now) :
    s.Coincide bus now (blocking >>= next) (nonBlocking >>= next') where
  ends := hends
  same hclock := by
    obtain ⟨bus', notices, value, hdone⟩ := h.ends
    rw [Operation.bind_congr_now (h.same hclock), Operation.bind_of_done hdone, Operation.bind_of_done hdone,
      hnext bus' notices value hdone]
  beyond hclock := Operation.bind_of_broken (h.beyond hclock) next

/-- Looking at the bus first makes no difference. -/
theorem Coincide.look {α β : Type} {f : Bus → α} {blocking nonBlocking : α → Operation β}
    (h : s.Coincide bus now (blocking (f bus)) (nonBlocking (f bus))) :
    s.Coincide bus now (Operation.look f >>= blocking) (Operation.look f >>= nonBlocking) := by
  have hlook : Operation.look f bus now = .done bus [] (f bus) := rfl
  constructor
  case ends =>
    rw [Operation.bind_of_done_nil hlook]
    exact h.ends
  case same =>
    rw [Operation.bind_of_done_nil hlook, Operation.bind_of_done_nil hlook]
    exact h.same
  case beyond =>
    rw [Operation.bind_of_done_nil hlook]
    exact h.beyond

/-- The first turn of a loop takes a message, and there are more turns than messages still. -/
theorem exists_first_of_unread (hungated : bus.gates.active = false) (hunread : bus.queue s ≠ []) {turns : Nat}
    (hturns : (bus.queue s).length < turns + 1) (now : Duration) :
    ∃ m, s.receive true bus now = .done (bus.take s).2 [] (some m) ∧ (bus.take s).2.gates.active = false
      ∧ ((bus.take s).2.queue s).length < turns := by
  obtain ⟨m, rest, hheld⟩ := List.exists_cons_of_ne_nil hunread
  obtain ⟨hungated', -, hturns'⟩ := Bus.after_turn hungated hturns hheld
  refine ⟨m, ?_, hungated', hturns'⟩
  rw [s.receive_now hungated, hheld]
  rfl

/-- The loop of a drain may wait in its first turn only. -/
theorem coincide_drainFrom (hungated : bus.gates.active = false) (hunread : bus.queue s ≠ []) {turns : Nat}
    (hturns : (bus.queue s).length < turns) :
    s.Coincide bus now (s.drainFrom true turns #[]) (s.drainFrom false turns #[]) := by
  cases turns with
  | zero => cases hturns
  | succ turns =>
    -- After the first message the loop holds something, and from there on both ways are the same.
    obtain ⟨m, hfirst, hungated', hturns'⟩ := exists_first_of_unread hungated hunread hturns now
    refine (coincide_receive hungated hunread).bind ⟨_, _, _, s.drainFrom_now hungated rfl hturns⟩ ?_
    intro bus' notices m' hreceive
    cases hfirst.symm.trans hreceive
    exact (s.drainFrom_now hungated' rfl hturns').trans (s.drainFrom_now hungated' rfl hturns').symm

/-- So may the loop that keeps the newest message. -/
theorem coincide_newestFrom (hungated : bus.gates.active = false) (hunread : bus.queue s ≠ []) {turns : Nat}
    (hturns : (bus.queue s).length < turns) :
    s.Coincide bus now (s.newestFrom true turns none 0) (s.newestFrom false turns none 0) := by
  cases turns with
  | zero => cases hturns
  | succ turns =>
    obtain ⟨m, hfirst, hungated', hturns'⟩ := exists_first_of_unread hungated hunread hturns now
    refine (coincide_receive hungated hunread).bind ⟨_, _, _, s.newestFrom_now hungated rfl hturns⟩ ?_
    intro bus' notices m' hreceive
    cases hfirst.symm.trans hreceive
    exact (s.newestFrom_now hungated' rfl hturns').trans (s.newestFrom_now hungated' rfl hturns').symm

/-- Where no gate is active, let at least one message wait for a subscriber that has any timeout or none. Whether it
takes one message, all of them, all of them decoded or the newest, the way that may wait is the one that does not: both
end at once, with the same value, the same notices and the same queues. Only if the timeout ends beyond the clock, the
way that may wait breaks down instead, and every message is still there. -/
theorem blocking_of_unread (s : Subscriber) (b : Bus) (now : Duration) (further : Nat)
    (hungated : b.gates.active = false) (hunread : b.queue s ≠ []) :
    s.Coincide b now s.receiveOne s.receiveOneOrNone
      ∧ s.Coincide b now (s.newest true further) (s.newest false further)
      ∧ s.Coincide b now (s.drain true further) (s.drain false further)
      ∧ s.Coincide b now (s.drainRaw true further) (s.drainRaw false further) := by
  have hreceive : s.Coincide b now (s.receive false) (s.receive true) := coincide_receive hungated hunread
  have hturns : (b.queue s).length < (b.queue s).length + 1 + further := by omega
  have hdrainRaw : s.Coincide b now (s.drainRaw true further) (s.drainRaw false further) :=
    Coincide.look (coincide_drainFrom hungated hunread hturns)
  -- The newest is decoded once the loop has ended, which adds nothing that could wait.
  have hnewest : s.Coincide b now (s.newest true further) (s.newest false further) := by
    have hends : s.newest false further b now = _ := s.newest_now hungated further
    have hlook : s.turns further b now = .done b [] ((b.queue s).length + 1 + further) := rfl
    rw [newest, Operation.bind_of_done_nil hlook] at hends
    exact Coincide.look ((coincide_newestFrom hungated hunread hturns).bind ⟨_, _, _, hends⟩ fun _ _ _ _ => rfl)
  refine ⟨?_, hnewest, ?_, hdrainRaw⟩
  · exact hreceive.bind ⟨_, _, _, s.receiveOneOrNone_now hungated⟩ fun _ _ _ _ => rfl
  · exact hdrainRaw.bind ⟨_, _, _, s.drain_now hungated further⟩ fun _ _ _ _ => rfl

end Clock

/-- With a message there, a timeout of zero makes no difference, and the longest one breaks the receive down. -/
theorem blocking_of_unreadBus : (unreadBus [[5, 1, 11]]).queue unreadSubscriber ≠ []
    ∧ (∃ b, ({ unreadSubscriber with timeout := some .zero } : Subscriber).receiveOne (unreadBus [[5, 1, 11]]) .zero =
      .done b [] (.ok (some ⟨5, true, .userFlag⟩)) ∧ b.queue unreadSubscriber = [])
    ∧ ({ unreadSubscriber with timeout := some .max } : Subscriber).receiveOne (unreadBus [[5, 1, 11]]) .zero =
      .broken (unreadBus [[5, 1, 11]]) [] .clockOverflow := by
  have hungated : (unreadBus [[5, 1, 11]]).gates.active = false := rfl
  have hqueue : (unreadBus [[5, 1, 11]]).queue unreadSubscriber = [[5, 1, 11]] := by
    decide +kernel
  have hunread : (unreadBus [[5, 1, 11]]).queue unreadSubscriber ≠ [] := by
    rw [hqueue]
    exact List.cons_ne_nil _ _
  have hzero : ({ unreadSubscriber with timeout := some .zero } : Subscriber).EndsOnClock .zero := by
    rintro t ⟨⟩
    decide
  have hmax : ¬ ({ unreadSubscriber with timeout := some .max } : Subscriber).EndsOnClock .zero := by
    intro h
    exact h .max rfl (by decide)
  obtain ⟨hsame, -⟩ := blocking_of_unread { unreadSubscriber with timeout := some .zero } _ .zero 0 hungated hunread
  obtain ⟨hbeyond, -⟩ := blocking_of_unread { unreadSubscriber with timeout := some .max } _ .zero 0 hungated hunread
  refine ⟨hunread, ?_, hbeyond.beyond hmax⟩
  refine ⟨((unreadBus [[5, 1, 11]]).take unreadSubscriber).2, ?_, ?_⟩
  · rw [hsame.same hzero, receiveOneOrNone_now _ hungated]
    change Call.done _ _ (decodeOne ((unreadBus [[5, 1, 11]]).queue unreadSubscriber).head?) = _
    rw [hqueue]
    rfl
  · rw [Bus.queue_take, hqueue]
    rfl

end Subscriber

end TopicHealth
