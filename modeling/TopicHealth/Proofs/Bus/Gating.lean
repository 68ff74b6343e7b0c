import TopicHealth.Proofs.Bus.Keep

/-!
# Receives at gates

A receive that meets a gate announces itself there, waits until the gate is ready, and leaves it not ready. Past its
gate, or where it meets none, it goes on in the same way and has nothing to do with gates any more.

* `Gates.barring?_eq_some_iff`: which gate a receive meets.
* `Subscriber.receive_of_free`, `Subscriber.receive_of_ready`, `Subscriber.run_receive_of_shut`: how a receive goes on.
* `Subscriber.meets_barring`: what a receive by itself does at the gate that bars it.
-/

namespace TopicHealth

namespace Gates

variable {gs : Gates} {gate gate' : Nat} {f g : Gate → Gate} {endpoint : String}

/-- A gate that was made is changed, and no other one. -/
theorem get_modify (gs : Gates) (gate gate' : Nat) (f : Gate → Gate) : (gs.modify gate f).get gate' =
    if gate = gate' ∧ gate < gs.made.length then f (gs.get gate') else gs.get gate' := by
  rw [get, get, modify, List.getElem?_modify]
  by_cases heq : gate = gate'
  · subst heq
    rcases Nat.lt_or_ge gate gs.made.length with hlt | hge
    · simp [hlt]
    · simp [Nat.not_lt_of_le hge]
  · simp [heq]

theorem get_modify_of_lt (h : gate < gs.made.length) (f : Gate → Gate) :
    (gs.modify gate f).get gate = f (gs.get gate) := by
  rw [get_modify, if_pos ⟨rfl, h⟩]

theorem get_modify_of_ne (h : gate ≠ gate') (f : Gate → Gate) : (gs.modify gate f).get gate' = gs.get gate' := by
  rw [get_modify, if_neg fun hboth => h hboth.1]

/-- A change that makes no gate ready. -/
theorem ready_modify_le (hf : ∀ g, (f g).ready.toNat ≤ g.ready.toNat) (gs : Gates) (gate gate' : Nat) :
    ((gs.modify gate f).get gate').ready.toNat ≤ (gs.get gate').ready.toNat := by
  rw [get_modify]
  split_ifs
  · exact hf _
  · exact Nat.le_refl _

theorem modify_modify (gs : Gates) (gate : Nat) (f g : Gate → Gate) :
    (gs.modify gate f).modify gate g = gs.modify gate (g ∘ f) := by
  simp [modify, List.modify_modify_eq]

theorem length_made_modify (gs : Gates) (gate : Nat) (f : Gate → Gate) :
    (gs.modify gate f).made.length = gs.made.length := List.length_modify _ _ _

theorem length_made_make (gs : Gates) (key : String × String) : (gs.make key).1.made.length = gs.made.length + 1 :=
  List.length_append

/-- A new gate is like one that was never made. -/
theorem get_make (gs : Gates) (key : String × String) (gate : Nat) : (gs.make key).1.get gate = gs.get gate := by
  rw [get, get, make, List.getElem?_append]
  split_ifs with hlt
  · rfl
  · rw [List.getElem?_eq_none (Nat.le_of_not_lt hlt), List.getElem?_singleton]
    split_ifs <;> rfl

/-- A gate that was never made is not enabled. -/
theorem lt_of_enabled (h : (gs.get gate).enabled = true) : gate < gs.made.length := by
  by_contra hge
  rw [get, List.getElem?_eq_none (Nat.le_of_not_lt hge)] at h
  cases h

/-- A receive meets the gate that is bound to the scope and its endpoint, where gating is active and the gate is
enabled. -/
theorem barring?_eq_some_iff : gs.barring? endpoint = some gate ↔
    gs.active = true ∧ gs.bound.lookup (gs.scope.getD "", endpoint) = some gate ∧ (gs.get gate).enabled = true := by
  rw [barring?]
  split_ifs with h
  · rw [Option.filter_eq_some_iff]
    simp [h]
  · simp [h]

end Gates

/-- The bus with a gate changed. -/
def Bus.modifyGate (b : Bus) (gate : Nat) (f : Gate → Gate) : Bus := { b with gates := b.gates.modify gate f }

/-- A gate at which a receive has announced itself. -/
def Gate.announced (g : Gate) : Gate := g.put .called true

/-- A gate that has let a receive through. -/
def Gate.passed (g : Gate) : Gate := g.announced.put .ready false

namespace Subscriber

variable {s : Subscriber} {bus : Bus} {now : Duration} {endpoint : String} {gate : Nat}

/-! ## The gate -/

/-- At its gate a receive announces itself and then waits for the gate to be ready. -/
theorem passGate_at (h : bus.gates.barring? endpoint = some gate) : passGate endpoint bus now =
    ((Operation.await (.signalled [.ofGate gate .ready] none) >>= fun _ =>
      Operation.change fun b => b.putSignal (.ofGate gate .ready) false) (bus.modifyGate gate Gate.announced)
        now).after [.gateWaiting endpoint] := by
  have hlook : Operation.look (fun b => b.gates.barring? endpoint) bus now = .done bus [] (some gate) :=
    congrArg (Call.done bus []) h
  have hreport : Operation.report [.gateWaiting endpoint] bus now = .done bus [.gateWaiting endpoint] () := rfl
  have hcall : (Operation.change fun b => b.putSignal (.ofGate gate .called) true) bus now =
      .done (bus.modifyGate gate Gate.announced) [] () := rfl
  rw [passGate, Operation.bind_of_done_nil hlook]
  change (Operation.report _ >>= _) bus now = _
  rw [Operation.bind_of_done hreport, Operation.bind_of_done_nil hcall]

/-- Whether a receive that has announced itself may go on. -/
theorem isOver_ready (h : bus.gates.barring? endpoint = some gate) :
    (Wait.signalled [.ofGate gate .ready] none).isOver (bus.modifyGate gate Gate.announced) now =
      (bus.gates.get gate).ready := by
  have hlt := Gates.lt_of_enabled (Gates.barring?_eq_some_iff.mp h).2.2
  have hget : (bus.modifyGate gate Gate.announced).gates.get gate = (bus.gates.get gate).announced :=
    Gates.get_modify_of_lt hlt _
  simp [Wait.isOver, Bus.isSet, hget, Gate.isSet, Gate.announced, Gate.put]

/-- A receive that was let through before it came announces itself, uses the signal up and goes on. -/
theorem passGate_of_ready (h : bus.gates.barring? endpoint = some gate) (hready : (bus.gates.get gate).ready = true) :
    passGate endpoint bus now = .done (bus.modifyGate gate Gate.passed) [.gateWaiting endpoint] () := by
  have hawait : Operation.await (.signalled [.ofGate gate .ready] none) (bus.modifyGate gate Gate.announced) now =
      .done (bus.modifyGate gate Gate.announced) [] () := by
    rw [Operation.await, isOver_ready h, if_pos hready]
  have hclose : (bus.modifyGate gate Gate.announced).putSignal (.ofGate gate .ready) false =
      bus.modifyGate gate Gate.passed := by
    simp only [Bus.putSignal, Bus.modifyGate, Gates.modify_modify]
    rfl
  rw [passGate_at h, Operation.bind_of_done_nil hawait, Operation.change, hclose]
  rfl

/-- A receive that was not let through announces itself and waits. -/
theorem passGate_of_shut (h : bus.gates.barring? endpoint = some gate) (hshut : (bus.gates.get gate).ready = false) :
    passGate endpoint bus now = .wait (bus.modifyGate gate Gate.announced) [.gateWaiting endpoint]
      (.signalled [.ofGate gate .ready] none)
      fun bus _ => .done (bus.putSignal (.ofGate gate .ready) false) [] () := by
  have hnotReady : ¬ (bus.gates.get gate).ready = true := by
    rw [hshut]
    exact Bool.false_ne_true
  rw [passGate_at h]
  change ((Operation.await _ (bus.modifyGate gate Gate.announced) now).bind now _).after _ = _
  rw [Operation.await, isOver_ready h, if_neg hnotReady]
  rfl

/-! ## The rest of a receive -/

variable [Clock]

/-- A receive past its gate. -/
def pastGate (s : Subscriber) (nonBlocking : Bool) : Operation (Option Message) := do
  unless nonBlocking do
    Operation.await (.unread [s.reader] (← s.deadline))
  s.takeNow

/-- Past the gate a receive leaves all signals as they are. -/
theorem pastGate_keeps (s : Subscriber) (nonBlocking : Bool) (gates : Gates) (signals : List Bool) :
    (s.pastGate nonBlocking).Keeps fun b => b.gates = gates ∧ b.signals = signals := by
  have htake : s.takeNow.Keeps fun b => b.gates = gates ∧ b.signals = signals := fun _ _ hbus => hbus
  cases nonBlocking with
  | true => exact (Operation.keeps_pure PUnit.unit).bind fun _ => htake
  | false => exact s.deadline_keeps.bind fun _ => (Operation.keeps_await _).bind fun _ => htake

theorem receive_of_free (h : bus.gates.barring? s.endpoint = none) (nonBlocking : Bool) :
    s.receive nonBlocking bus now = s.pastGate nonBlocking bus now :=
  Operation.bind_of_done_nil (passGate_of_free h)

theorem receive_of_ready (h : bus.gates.barring? s.endpoint = some gate) (hready : (bus.gates.get gate).ready = true)
    (nonBlocking : Bool) : s.receive nonBlocking bus now =
      (s.pastGate nonBlocking (bus.modifyGate gate Gate.passed) now).after [.gateWaiting s.endpoint] :=
  Operation.bind_of_done (passGate_of_ready h hready)

/-- By itself a receive does not come through a gate that is not ready. -/
theorem run_receive_of_shut (h : bus.gates.barring? s.endpoint = some gate)
    (hshut : (bus.gates.get gate).ready = false) (nonBlocking : Bool) :
    (s.receive nonBlocking bus now).run now [] =
      ⟨bus.modifyGate gate Gate.announced, now, [.gateWaiting s.endpoint], [], .stuck⟩ := by
  have hnotReady : ¬ (bus.gates.get gate).ready = true := by
    rw [hshut]
    exact Bool.false_ne_true
  change ((passGate s.endpoint bus now).bind now fun _ => s.pastGate nonBlocking).run now [] = _
  rw [passGate_of_shut h hshut]
  change Call.run now [] (.wait (bus.modifyGate gate Gate.announced) _ _ _) = _
  rw [Call.run, Wait.pass_nil, isOver_ready h, if_neg hnotReady]
  rfl

/-- A receive by itself meets a gate, or none. Without a gate it leaves all signals as they are. At a gate it announces
itself: if the gate is not ready, the receive is stuck and has done nothing else; if it is, the receive leaves it not
ready and goes on like one without a gate. -/
structure Meets (s : Subscriber) (nonBlocking : Bool) (bus : Bus) (now : Duration) (gate? : Option Nat) : Prop where
  free : gate? = none → s.receive nonBlocking bus now = s.pastGate nonBlocking bus now
    ∧ ((s.receive nonBlocking bus now).run now []).bus.gates = bus.gates
    ∧ ((s.receive nonBlocking bus now).run now []).bus.signals = bus.signals
  shut : ∀ gate ∈ gate?, (bus.gates.get gate).ready = false → (s.receive nonBlocking bus now).run now [] =
    ⟨bus.modifyGate gate Gate.announced, now, [.gateWaiting s.endpoint], [], .stuck⟩
  ready : ∀ gate ∈ gate?, (bus.gates.get gate).ready = true → s.receive nonBlocking bus now =
      (s.pastGate nonBlocking (bus.modifyGate gate Gate.passed) now).after [.gateWaiting s.endpoint]
    ∧ ((s.receive nonBlocking bus now).run now []).bus.gates = bus.gates.modify gate Gate.passed
    ∧ ((s.receive nonBlocking bus now).run now []).bus.signals = bus.signals

/-- A receive meets the gate of its endpoint or none, and the gate is ready or not. -/
theorem meets_barring (s : Subscriber) (nonBlocking : Bool) (bus : Bus) (now : Duration) :
    s.Meets nonBlocking bus now (bus.gates.barring? s.endpoint) where
  free h := by
    rw [receive_of_free h]
    exact ⟨rfl, (s.pastGate_keeps nonBlocking _ _ bus now ⟨rfl, rfl⟩).run now⟩
  shut _ hgate hshut := run_receive_of_shut hgate hshut nonBlocking
  ready gate hgate hready := by
    rw [receive_of_ready hgate hready, Call.run_after]
    exact ⟨rfl, (s.pastGate_keeps nonBlocking _ _ (bus.modifyGate gate Gate.passed) now ⟨rfl, rfl⟩).run now⟩

end Subscriber

end TopicHealth
