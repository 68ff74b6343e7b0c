import TopicHealth.Proofs.Bus.Receive

/-!
# Draining

Where no gate is active a drain that does not wait is a function of the bus: it takes one message after another until
there is none, and so gives the queue as it was and leaves nothing of it. The turns that it is followed for are always
enough.

* `Bus.afterTakes`: the bus after so many takes; `Bus.after_turn`: what is left after one turn of a loop.
* `Subscriber.drainFrom_now`, `Subscriber.drainRaw_now`: what is taken, in which order, and what is left.
* `Subscriber.newest_now`: the newest message decides, whatever comes before it.
-/

namespace TopicHealth

namespace Bus

variable {b : Bus} {s : Subscriber} {id : Nat} {ch : Channel} {conflate : Bool} {held : List Message}

/-- The bus after a subscriber has tried to take a message so many times. -/
def afterTakes (b : Bus) (s : Subscriber) (n : Nat) : Bus := b.run (List.replicate n (.take s))

theorem afterTakes_succ (b : Bus) (s : Subscriber) (n : Nat) :
    b.afterTakes s (n + 1) = (b.take s).2.afterTakes s n := rfl

/-- Taking messages leaves the numbers of the readers alone. -/
theorem WellFormed.afterTakes (h : b.WellFormed) (s : Subscriber) (n : Nat) : (b.afterTakes s n).WellFormed :=
  -- A take is an action like any other.
  wellFormed_run _ h

theorem gates_afterTakes (b : Bus) (s : Subscriber) (n : Nat) : (b.afterTakes s n).gates = b.gates := by
  induction n generalizing b with
  | zero => rfl
  | succ n ih => exact ih (b.take s).2

/-- One message less is left, if there was one. -/
theorem queue_take (b : Bus) (s : Subscriber) : (b.take s).2.queue s = (b.queue s).tail := by
  rw [queue, queue, reader?_take, Option.map_map]
  cases hr : b.reader? s.reader with
  | none => rfl
  | some r => simp [id_of_reader? hr]

/-- After a turn that took a message one less is left, still fewer than there are turns. -/
theorem after_turn (h : b.gates.active = false) {turns : Nat} (hturns : (b.queue s).length < turns + 1) {m : Message}
    {rest : List Message} (hheld : b.queue s = m :: rest) :
    (b.take s).2.gates.active = false ∧ (b.take s).2.queue s = rest ∧ ((b.take s).2.queue s).length < turns := by
  have hqueue : (b.take s).2.queue s = rest := by
    rw [queue_take, hheld, List.tail_cons]
  rw [hheld] at hturns
  rw [hqueue]
  exact ⟨h, rfl, Nat.lt_of_succ_lt_succ hturns⟩

/-- So many messages less are left. -/
theorem queue_afterTakes (b : Bus) (s : Subscriber) (n : Nat) : (b.afterTakes s n).queue s = (b.queue s).drop n := by
  induction n generalizing b with
  | zero => rfl
  | succ n ih => rw [afterTakes_succ, ih, queue_take, List.drop_tail]

/-- Each take leaves one message less. -/
theorem Queues.afterTakes (h : b.Queues s.reader ch conflate held) (n : Nat) :
    (b.afterTakes s n).Queues s.reader ch conflate (held.drop n) := by
  induction n generalizing b held with
  | zero => exact h
  | succ n ih =>
    rw [afterTakes_succ, ← List.drop_tail]
    exact ih h.take

/-- Takes leave the other readers alone. -/
theorem Queues.afterTakes_ne (h : b.Queues id ch conflate held) (hb : b.WellFormed) (hne : s.reader ≠ id) (n : Nat) :
    (b.afterTakes s n).Queues id ch conflate held := by
  induction n generalizing b with
  | zero => exact h
  | succ n ih =>
    have htake : (b.act (.take s)).Queues id ch conflate held := h.act hb fun heq => hne (Option.some.inj heq)
    exact ih htake (hb.act (.take s))

end Bus

variable [Clock]

namespace Subscriber

variable {bus : Bus} {now : Duration} (s : Subscriber) (h : bus.gates.active = false)

include h

/-- A loop that does not wait any more takes what is there, and in its last turn it finds nothing. -/
theorem drainFrom_now {wait : Bool} {turns : Nat} {taken : Array Message} (hwait : (wait && taken.isEmpty) = false)
    (hturns : (bus.queue s).length < turns) :
    s.drainFrom wait turns taken bus now =
      .done (bus.afterTakes s ((bus.queue s).length + 1)) [] (taken.toList ++ bus.queue s) := by
  -- The induction is on the turns: each takes the head of the queue, and there are more of them than messages.
  induction turns generalizing bus taken with
  | zero => cases hturns
  | succ turns ih =>
    have hreceive : s.receive (!(wait && taken.isEmpty)) bus now = .done (bus.take s).2 [] (bus.queue s).head? := by
      rw [hwait]
      exact s.receive_now h
    rw [drainFrom, Operation.bind_of_done_nil hreceive]
    cases hheld : bus.queue s with
    | nil =>
      rw [List.append_nil]
      rfl
    | cons m rest =>
      obtain ⟨hungated, hqueue, hturns'⟩ := Bus.after_turn h hturns hheld
      have hwait' : (wait && (taken.push m).isEmpty) = false := by
        rw [Array.isEmpty_push, Bool.and_false]
      have hrest : s.drainFrom wait turns (taken.push m) (bus.take s).2 now = _ := ih hungated hwait' hturns'
      rw [hqueue, Array.toList_push, List.append_assoc] at hrest
      exact hrest

/-- All that is there is taken, the oldest first, and then one more look is made. -/
theorem drainRaw_now (further : Nat) :
    s.drainRaw false further bus now =
      .done (bus.afterTakes s ((bus.queue s).length + 1)) [] (bus.queue s) := by
  -- The messages are counted before the first turn, and one turn is for finding nothing.
  have hturns : s.turns further bus now = .done bus [] ((bus.queue s).length + 1 + further) := rfl
  rw [drainRaw, Operation.bind_of_done_nil hturns]
  exact s.drainFrom_now h rfl (by omega)

/-- A loop that does not wait any more keeps the last message that is there, and drops whatever it had or takes before
that one. -/
theorem newestFrom_now {wait : Bool} {turns dropped : Nat} {latest : Option Message}
    (hwait : (wait && latest.isNone) = false) (hturns : (bus.queue s).length < turns) :
    s.newestFrom wait turns latest dropped bus now =
      .done (bus.afterTakes s ((bus.queue s).length + 1)) []
        ((bus.queue s).getLast?.or latest, dropped + (latest.toList.length + (bus.queue s).length - 1)) := by
  -- The induction is on the turns, with any latest message and any count of those dropped.
  induction turns generalizing bus latest dropped with
  | zero => cases hturns
  | succ turns ih =>
    have hreceive : s.receive (!(wait && latest.isNone)) bus now = .done (bus.take s).2 [] (bus.queue s).head? := by
      rw [hwait]
      exact s.receive_now h
    rw [newestFrom, Operation.bind_of_done_nil hreceive]
    cases hheld : bus.queue s with
    | nil => cases latest <;> rfl
    | cons m rest =>
      obtain ⟨hungated, hqueue, hturns'⟩ := Bus.after_turn h hturns hheld
      have hwait' : (wait && (some m).isNone) = false := Bool.and_false wait
      -- One more is dropped if there was a latest message before this one.
      have hcount : (if latest.isSome then dropped + 1 else dropped) + ((some m).toList.length + rest.length - 1) =
          dropped + (latest.toList.length + (m :: rest).length - 1) := by
        cases latest with
        | none => simp
        | some old =>
          simp only [Option.isSome_some, if_true, Option.toList_some, List.length_cons]
          omega
      have hlast : rest.getLast?.or (some m) = (m :: rest).getLast?.or latest := by
        rw [List.getLast?_cons, Option.some_or]
        cases rest.getLast? <;> rfl
      have hrest : s.newestFrom wait turns (some m) (if latest.isSome then dropped + 1 else dropped) (bus.take s).2 now
          = _ := ih hungated hwait' hturns'
      rw [hqueue, hcount, hlast] at hrest
      exact hrest

/-- The newest message decides, and those before it are counted. -/
theorem newest_now (further : Nat) :
    s.newest false further bus now = .done (bus.afterTakes s ((bus.queue s).length + 1))
      (if 1 < (bus.queue s).length then [.olderDropped s.endpoint ((bus.queue s).length - 1)] else [])
      (decodeOne (bus.queue s).getLast?) := by
  have hturns : s.turns further bus now = .done bus [] ((bus.queue s).length + 1 + further) := rfl
  -- There are more turns than messages, whatever number is added, so that the loop ends by itself.
  have hloop : s.newestFrom false ((bus.queue s).length + 1 + further) none 0 bus now = _ :=
    s.newestFrom_now h rfl (by omega)
  have hcount : 0 + ((none : Option Message).toList.length + (bus.queue s).length - 1) = (bus.queue s).length - 1 := by
    simp
  rw [Option.or_none, hcount] at hloop
  rw [newest, Operation.bind_of_done_nil hturns, Operation.bind_of_done_nil hloop]
  simp only [Nat.sub_pos_iff_lt]
  split_ifs
  · rfl
  · rfl

end Subscriber

end TopicHealth
