import TopicHealth.Proofs.Bus.Receive

/-!
# Gates

A gate holds a receive up and does nothing else. An operation that has the bus for itself and goes through at the
gates would go through without them, to the same end at the same instant.

* `Call.alone?_bind`: what a call by itself ends with, step by step.
* `Subscriber.passGate_heldUpOnly`: a receive that was held up passes its gate with the queues as they were.
* `Subscriber.receiveOneOrNone_heldUpOnly`, `Poller.poll_heldUpOnly`: receives that do not wait, and polls.
-/

namespace TopicHealth

variable {α β : Type} {bus bus' : Bus} {now now' : Duration}

/-! ## Calls by themselves -/

/-- With nobody else about, a wait ends at its deadline, if it is not over at once. -/
theorem Wait.pass_nil (reason : Wait) (bus : Bus) (now : Duration) :
    reason.pass bus now [] =
      if reason.isOver bus now then some (bus, now, []) else reason.deadline?.map fun t => (bus, t, []) := by
  rw [Wait.pass]

/-- What a call by itself ends with, on which bus and when; none if it is stuck or breaks down. -/
def Call.alone? (now : Duration) (call : Call α) : Option (α × Bus × Duration) :=
  let r := call.run now []
  match r.ending with
  | .done value => some (value, r.bus, r.now)
  | .broken _ | .stuck => none

namespace Call

theorem alone?_after (earlier : List Notice) (now : Duration) (call : Call α) :
    (call.after earlier).alone? now = call.alone? now := by
  rw [alone?, alone?, run_after]

theorem alone?_wait (now : Duration) (notices : List Notice) (reason : Wait) (resume : Bus → Duration → Call α) :
    (wait bus notices reason resume).alone? now =
      (reason.pass bus now []).bind fun (bus, now, _) => (resume bus now).alone? now := by
  rw [alone?, run, Wait.pass_nil]
  split_ifs
  · rfl
  · cases reason.deadline? <;> rfl

theorem alone?_bind (now : Duration) (next : α → Bus → Duration → Call β) (call : Call α) :
    (call.bind now next).alone? now =
      (call.alone? now).bind fun (value, bus, now) => (next value bus now).alone? now := by
  induction call generalizing now with
  | done bus notices value => exact alone?_after notices now (next value bus now)
  | broken bus notices reason => rfl
  | wait bus notices reason resume ih =>
    -- Whether the wait ends does not depend on what comes after it.
    rw [Call.bind, alone?_wait, alone?_wait, Option.bind_assoc]
    exact Option.bind_congr fun woken _ => ih _ _ _

end Call

namespace Operation

/-- What an operation by itself ends with, on which bus and when. -/
def alone? (op : Operation α) (bus : Bus) (now : Duration) : Option (α × Bus × Duration) := (op bus now).alone? now

theorem alone?_bind (op : Operation α) (next : α → Operation β) (bus : Bus) (now : Duration) :
    (op >>= next).alone? bus now =
      (op.alone? bus now).bind fun (value, bus, now) => (next value).alone? bus now :=
  Call.alone?_bind now next (op bus now)

theorem alone?_await (reason : Wait) (bus : Bus) (now : Duration) :
    (await reason).alone? bus now =
      if reason.isOver bus now then some ((), bus, now) else reason.deadline?.map fun t => ((), bus, t) := by
  rw [alone?, await]
  by_cases hover : reason.isOver bus now = true
  · rw [if_pos hover, if_pos hover]
    rfl
  · rw [if_neg hover, if_neg hover, Call.alone?_wait, Wait.pass_nil, if_neg hover]
    cases reason.deadline? <;> rfl

end Operation

/-! ## At a gate -/

/-- The bus with no gate. -/
def Bus.ungated (b : Bus) : Bus := { b with gates := {} }

theorem Bus.WellFormed.ungated (h : bus.WellFormed) : bus.ungated.WellFormed := ⟨h.lt_serial, h.nodup⟩

namespace Operation

/-- An operation by itself takes no time and changes the gates at most. -/
def GatesOnly (op : Operation α) : Prop :=
  ∀ bus now value bus' now', op.alone? bus now = some (value, bus', now') → bus'.ungated = bus.ungated ∧ now' = now

/-- One operation after another changes the gates only, if both do. -/
theorem GatesOnly.bind {op : Operation α} {next : α → Operation β} (h : op.GatesOnly)
    (hnext : ∀ value, (next value).GatesOnly) : (op >>= next).GatesOnly := by
  intro bus now value bus' now' hend
  rw [alone?_bind, Option.bind_eq_some_iff] at hend
  obtain ⟨⟨first, bus₁, now₁⟩, hfirst, hrest⟩ := hend
  obtain ⟨hbus₁, hnow₁⟩ := h _ _ _ _ _ hfirst
  obtain ⟨hbus', hnow'⟩ := hnext first _ _ _ _ _ hrest
  exact ⟨hbus'.trans hbus₁, hnow'.trans hnow₁⟩

theorem gatesOnly_of_done {op : Operation α} {f : Bus → Bus} {notices : List Notice} {result : Bus → α}
    (h : ∀ bus now, op bus now = .done (f bus) notices (result bus)) (hf : ∀ bus, (f bus).ungated = bus.ungated) :
    op.GatesOnly := by
  intro bus now value bus' now' hend
  rw [alone?, h] at hend
  cases hend
  exact ⟨hf bus, rfl⟩

/-- To give a signal of a gate changes the gates, which are left out of account. -/
theorem gatesOnly_putSignal (gate : Nat) (which : Gate.Signal) (value : Bool) :
    (change fun b => b.putSignal (.ofGate gate which) value).GatesOnly :=
  gatesOnly_of_done (fun _ _ => rfl) fun _ => rfl

/-- A wait without a deadline is over at once or never. -/
theorem gatesOnly_await {reason : Wait} (h : reason.deadline? = none) : (await reason).GatesOnly := by
  intro bus now value bus' now' hend
  rw [alone?_await, h] at hend
  split_ifs at hend
  · cases hend
    exact ⟨rfl, rfl⟩
  · cases hend

end Operation

/-- A receive that is let through at its gate has lost no time, and the queues are as they were. -/
theorem Subscriber.passGate_gatesOnly (endpoint : String) : (passGate endpoint).GatesOnly := by
  have hlook : (Operation.look fun b => b.gates.barring? endpoint).GatesOnly :=
    Operation.gatesOnly_of_done (fun _ _ => rfl) fun _ => rfl
  rw [passGate]
  refine hlook.bind fun barring => ?_
  -- At a gate only the wait for its signal may not end, and that has no deadline.
  cases barring with
  | none => exact Operation.gatesOnly_of_done (fun _ _ => rfl) fun _ => rfl
  | some gate =>
    have hreport : (Operation.report [.gateWaiting endpoint]).GatesOnly :=
      Operation.gatesOnly_of_done (fun _ _ => rfl) fun _ => rfl
    refine hreport.bind fun _ => ?_
    refine (Operation.gatesOnly_putSignal gate .called true).bind fun _ => ?_
    refine (Operation.gatesOnly_await rfl).bind fun _ => ?_
    exact Operation.gatesOnly_putSignal gate .ready false

/-! ## Without gates -/

namespace Operation

/-- Gates hold an operation up at most: where it ends by itself, it does so as well without gates. -/
def HeldUpOnly (op : Operation α) : Prop :=
  ∀ bus now value bus' now', op.alone? bus now = some (value, bus', now') →
    op.alone? bus.ungated now = some (value, bus'.ungated, now')

/-- One operation after another is held up only, if both are. -/
theorem HeldUpOnly.bind {op : Operation α} {next : α → Operation β} (h : op.HeldUpOnly)
    (hnext : ∀ value, (next value).HeldUpOnly) : (op >>= next).HeldUpOnly := by
  intro bus now value bus' now' hend
  rw [alone?_bind, Option.bind_eq_some_iff] at hend
  obtain ⟨⟨first, bus₁, now₁⟩, hfirst, hrest⟩ := hend
  rw [alone?_bind, h _ _ _ _ _ hfirst, Option.bind_some]
  exact hnext first _ _ _ _ _ hrest

/-- An operation that does not wait and reads no gate. -/
theorem heldUpOnly_of_done {op : Operation α} {f : Bus → Bus} {notices : Bus → Duration → List Notice}
    {result : Bus → Duration → α} (h : ∀ bus now, op bus now = .done (f bus) (notices bus now) (result bus now))
    (hf : ∀ bus, f bus.ungated = (f bus).ungated) (hresult : ∀ bus now, result bus.ungated now = result bus now) :
    op.HeldUpOnly := by
  intro bus now value bus' now' hend
  rw [alone?, h] at hend
  cases hend
  rw [alone?, h, hf, hresult]
  rfl

theorem heldUpOnly_pure (value : α) : (pure value : Operation α).HeldUpOnly :=
  heldUpOnly_of_done (fun _ _ => rfl) (fun _ => rfl) fun _ _ => rfl

theorem heldUpOnly_report (notices : List Notice) : (report notices).HeldUpOnly :=
  heldUpOnly_of_done (fun _ _ => rfl) (fun _ => rfl) fun _ _ => rfl

/-- What waits for the readers has nothing to do with gates. -/
theorem heldUpOnly_await_unread (readers : List Nat) (deadline : Option Duration) :
    (await (.unread readers deadline)).HeldUpOnly := by
  intro bus now value bus' now' hend
  have hover : (Wait.unread readers deadline).isOver bus.ungated now = (Wait.unread readers deadline).isOver bus now :=
    rfl
  rw [alone?_await] at hend
  rw [alone?_await, hover]
  split_ifs at hend ⊢ with h
  · cases hend
    rfl
  · obtain ⟨t, ht, hend⟩ := Option.map_eq_some_iff.mp hend
    cases hend
    rw [ht]
    rfl

end Operation

namespace Subscriber

/-- Past a gate there is the same bus as without one. -/
theorem passGate_heldUpOnly (endpoint : String) : (passGate endpoint).HeldUpOnly := by
  intro bus now value bus' now' hend
  -- Without gates the receive passes at once, and at a gate it has changed nothing else by the time it passes.
  obtain ⟨hbus, rfl⟩ := passGate_gatesOnly endpoint _ _ _ _ _ hend
  rw [Operation.alone?, passGate_of_inactive endpoint rfl, hbus]
  rfl

theorem takeNow_heldUpOnly (s : Subscriber) : s.takeNow.HeldUpOnly :=
  Operation.heldUpOnly_of_done (f := fun bus => (bus.take s).2) (fun _ _ => rfl) (fun _ => rfl) fun _ _ => rfl

/-- A receive that does not wait for messages is held up at the gate of its endpoint only. -/
theorem receive_heldUpOnly [Clock] (s : Subscriber) : (s.receive true).HeldUpOnly :=
  (passGate_heldUpOnly s.endpoint).bind fun _ => takeNow_heldUpOnly s

theorem receiveOneOrNone_heldUpOnly [Clock] (s : Subscriber) : s.receiveOneOrNone.HeldUpOnly :=
  (receive_heldUpOnly s).bind fun _ => Operation.heldUpOnly_pure _

end Subscriber

theorem Poller.poll_heldUpOnly [Clock] (p : Poller) (timeout : Duration) : (p.poll timeout).HeldUpOnly := by
  have hdeadline : (Operation.deadline (some timeout)).HeldUpOnly :=
    Operation.heldUpOnly_of_done (fun _ _ => rfl) (fun _ => rfl) fun _ _ => rfl
  have hlook : (Operation.look p.ready).HeldUpOnly :=
    Operation.heldUpOnly_of_done (fun _ _ => rfl) (fun _ => rfl) fun _ _ => rfl
  exact hdeadline.bind fun deadline => (Operation.heldUpOnly_await_unread p.readers deadline).bind fun _ => hlook

end TopicHealth
