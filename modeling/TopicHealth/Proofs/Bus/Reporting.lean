import TopicHealth.Bus.Poller
import TopicHealth.Bus.Receive
import TopicHealth.Proofs.Bus.Yield

/-!
# What operations report

An operation reports things of a kind only if all its parts do. That goes for one that breaks down as well: what it has
reported by then is told.

* `Operation.TellsOnly.bind`: an operation that goes on with another.
* `Call.TellsOnly.reports`: what a call has reported when it ends.
* `Subscriber.receiveOneOrNone_tellsOnly`, `Poller.poll_tellsOnly`: receives that do not wait, and polls.
-/

namespace TopicHealth

variable {α β : Type} {P : Notice → Prop}

/-! ## Calls -/

namespace Call

/-- All that a call reports has a property, whatever the call is woken with and however it ends. -/
def TellsOnly (P : Notice → Prop) : Call α → Prop
  | done _ notices _ | broken _ notices _ => ∀ n ∈ notices, P n
  | wait _ notices _ resume => (∀ n ∈ notices, P n) ∧ ∀ bus now, (resume bus now).TellsOnly P

theorem TellsOnly.after {call : Call α} (h : call.TellsOnly P) {earlier : List Notice} (hearlier : ∀ n ∈ earlier, P n) :
    (call.after earlier).TellsOnly P := by
  cases call with
  | done | broken => exact List.forall_mem_append.mpr ⟨hearlier, h⟩
  | wait => exact ⟨List.forall_mem_append.mpr ⟨hearlier, h.1⟩, h.2⟩

theorem TellsOnly.bind {call : Call α} {now : Duration} {next : α → Bus → Duration → Call β} (h : call.TellsOnly P)
    (hnext : ∀ value bus now, (next value bus now).TellsOnly P) : (call.bind now next).TellsOnly P := by
  induction call generalizing now with
  | done bus notices value => exact (hnext value bus now).after h
  | broken => exact h
  | wait bus notices reason resume ih => exact ⟨h.1, fun bus now => ih bus now (h.2 bus now)⟩

/-- What a call may tell along its way it may tell by its end. -/
theorem TellsOnly.reports {call : Call α} (h : call.TellsOnly P) :
    call.Reports fun notices _ => ∀ n ∈ notices, P n := by
  induction call with
  | done => exact h
  | broken => trivial
  | wait bus notices reason resume ih =>
    intro bus now
    exact (ih bus now (h.2 bus now)).mono fun more _ hmore => List.forall_mem_append.mpr ⟨h.1, hmore⟩

end Call

/-! ## Operations -/

namespace Operation

/-- All that an operation reports has a property. -/
def TellsOnly (P : Notice → Prop) (op : Operation α) : Prop := ∀ bus now, (op bus now).TellsOnly P

theorem TellsOnly.bind {op : Operation α} {next : α → Operation β} (h : op.TellsOnly P)
    (hnext : ∀ value, (next value).TellsOnly P) : (op >>= next).TellsOnly P :=
  fun bus now => (h bus now).bind hnext

/-- What ends at once and reports nothing. -/
theorem tellsOnly_of_done {op : Operation α} {f : Bus → Bus} {result : Bus → Duration → α}
    (h : ∀ bus now, op bus now = .done (f bus) [] (result bus now)) : op.TellsOnly P := by
  intro bus now
  rw [h]
  exact List.forall_mem_nil P

theorem tellsOnly_pure (value : α) : (pure value : Operation α).TellsOnly P :=
  tellsOnly_of_done fun _ _ => rfl

theorem tellsOnly_look (f : Bus → α) : (look f).TellsOnly P := tellsOnly_of_done fun _ _ => rfl

theorem tellsOnly_change (f : Bus → Bus) : (change f).TellsOnly P := tellsOnly_of_done fun _ _ => rfl

theorem tellsOnly_report {notices : List Notice} (h : ∀ n ∈ notices, P n) : (report notices).TellsOnly P :=
  fun _ _ => h

theorem tellsOnly_await (reason : Wait) : (await reason).TellsOnly P := by
  intro bus now
  rw [await]
  split
  · exact List.forall_mem_nil P
  · exact ⟨List.forall_mem_nil P, fun _ _ => List.forall_mem_nil P⟩

theorem tellsOnly_deadline [Clock] (span : Option Duration) : (deadline span).TellsOnly P :=
  tellsOnly_of_done fun _ _ => rfl

end Operation

namespace Subscriber

/-- A gate that bars is reported, and that alone. -/
theorem passGate_tellsOnly {endpoint : String} (h : P (.gateWaiting endpoint)) :
    (passGate endpoint).TellsOnly P := by
  refine (Operation.tellsOnly_look _).bind fun barring => ?_
  cases barring with
  | none => exact Operation.tellsOnly_pure ()
  | some gate =>
    refine (Operation.tellsOnly_report (List.forall_mem_singleton.mpr h)).bind fun _ => ?_
    refine (Operation.tellsOnly_change _).bind fun _ => ?_
    exact (Operation.tellsOnly_await _).bind fun _ => Operation.tellsOnly_change _

/-- A receive that does not wait for a message reports at most that it waits at its gate. -/
theorem receiveOneOrNone_tellsOnly [Clock] {s : Subscriber} (h : P (.gateWaiting s.endpoint)) :
    s.receiveOneOrNone.TellsOnly P := by
  have hreceive : (s.receive true).TellsOnly P := by
    refine (passGate_tellsOnly h).bind fun _ => ?_
    have htake : s.takeNow.TellsOnly P := by
      intro bus now
      exact List.forall_mem_nil P
    exact (Operation.tellsOnly_pure PUnit.unit).bind fun _ => htake
  exact hreceive.bind fun _ => Operation.tellsOnly_pure _

end Subscriber

/-- A poll reports nothing. -/
theorem Poller.poll_tellsOnly [Clock] (p : Poller) (timeout : Duration) : (p.poll timeout).TellsOnly P := by
  refine (Operation.tellsOnly_deadline _).bind fun deadline => ?_
  exact (Operation.tellsOnly_await _).bind fun _ => Operation.tellsOnly_look _

end TopicHealth
