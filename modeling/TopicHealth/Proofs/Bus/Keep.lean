import TopicHealth.Aggregator
import TopicHealth.Proofs.Bus.Gate
import TopicHealth.PublisherSet

/-!
# What calls keep

A property of the bus is kept by a call if the call leaves no bus without it, however it ends, and if it is woken with
none. Receives, polls and updates take messages and set the signals of gates, so they keep what those two keep.

* `Call.Keeps.bind`, `Call.Keeps.run`: a call that goes on with another, and a call by itself.
* `Bus.Stable`: what is kept when a message is taken, or the gates change.
* `Subscriber.receive_keeps`, `Poller.poll_keeps`, `Aggregator.update_keeps`: the operations that wait.
-/

namespace TopicHealth

variable {α β : Type} {P : Bus → Prop}

/-! ## Calls -/

namespace Call

/-- The call leaves only buses with a property, if it is woken with such. -/
def Keeps (P : Bus → Prop) : Call α → Prop
  | done bus _ _ => P bus
  | wait bus _ _ resume => P bus ∧ ∀ bus now, P bus → (resume bus now).Keeps P
  | broken bus _ _ => P bus

theorem Keeps.after {call : Call α} (h : call.Keeps P) (earlier : List Notice) : (call.after earlier).Keeps P := by
  cases call with
  | done | wait | broken => exact h

theorem Keeps.bind {call : Call α} {now : Duration} {next : α → Bus → Duration → Call β} (h : call.Keeps P)
    (hnext : ∀ value bus now, P bus → (next value bus now).Keeps P) : (call.bind now next).Keeps P := by
  induction call generalizing now with
  | done bus notices value => exact (hnext value bus now h).after notices
  | wait bus notices reason resume ih =>
    refine ⟨h.1, ?_⟩
    intro bus now hbus
    exact ih bus now (h.2 bus now hbus)
  | broken => exact h

/-- What a call leaves that nobody disturbs, whether it ends, breaks down or is stuck. -/
theorem Keeps.run {call : Call α} (h : call.Keeps P) (now : Duration) : P (call.run now []).bus := by
  induction call generalizing now with
  | done | broken => exact h
  | wait bus notices reason resume ih =>
    rw [Call.run, Wait.pass_nil]
    split_ifs
    · exact ih bus now (h.2 bus now h.1) now
    · cases reason.deadline? with
      | none => exact h.1
      | some t => exact ih bus t (h.2 bus t h.1) t

end Call

/-! ## Operations -/

namespace Operation

/-- The operation keeps a property of the bus. -/
def Keeps (P : Bus → Prop) (op : Operation α) : Prop := ∀ bus now, P bus → (op bus now).Keeps P

theorem Keeps.bind {op : Operation α} {next : α → Operation β} (h : op.Keeps P)
    (hnext : ∀ value, (next value).Keeps P) : (op >>= next).Keeps P := by
  intro bus now hbus
  exact (h bus now hbus).bind hnext

theorem keeps_pure (value : α) : (pure value : Operation α).Keeps P := fun _ _ hbus => hbus

theorem keeps_clock : clock.Keeps P := fun _ _ hbus => hbus

theorem keeps_look (f : Bus → α) : (look f).Keeps P := fun _ _ hbus => hbus

theorem keeps_report (notices : List Notice) : (report notices).Keeps P := fun _ _ hbus => hbus

theorem keeps_fail (reason : Breakdown) : (fail reason : Operation α).Keeps P := fun _ _ hbus => hbus

theorem keeps_change {f : Bus → Bus} (hf : ∀ bus, P bus → P (f bus)) : (change f).Keeps P :=
  fun bus _ hbus => hf bus hbus

/-- While a call waits others use the bus, and are trusted to keep what it keeps. -/
theorem keeps_await (reason : Wait) : (await reason).Keeps P := by
  intro bus now hbus
  rw [await]
  split_ifs
  · exact hbus
  · exact ⟨hbus, fun bus _ hbus => hbus⟩

theorem keeps_deadline [Clock] (span : Option Duration) : (deadline span).Keeps P :=
  keeps_clock.bind fun _ => keeps_pure _

theorem keeps_sleep [Clock] (span : Duration) : (sleep span).Keeps P := by
  refine keeps_clock.bind fun now => ?_
  split
  · exact keeps_await _
  · exact keeps_await _

end Operation

/-- What the bus keeps when a message is taken or the gates change. -/
structure Bus.Stable (P : Bus → Prop) : Prop where
  take : ∀ b s, P b → P (b.take s).2
  gates : ∀ (b : Bus) gates, P b → P { b with gates }

namespace Subscriber

/-- To pass a gate is to change its signals, and nothing else. -/
theorem passGate_keeps (hP : Bus.Stable P) (endpoint : String) : (passGate endpoint).Keeps P := by
  have hput : ∀ gate which value, (Operation.change fun b => b.putSignal (.ofGate gate which) value).Keeps P :=
    fun gate which value => Operation.keeps_change fun bus hbus => hP.gates bus _ hbus
  refine (Operation.keeps_look _).bind fun barring => ?_
  cases barring with
  | none => exact Operation.keeps_pure ()
  | some gate =>
    refine (Operation.keeps_report _).bind fun _ => ?_
    refine (hput gate .called true).bind fun _ => ?_
    exact (Operation.keeps_await _).bind fun _ => hput gate .ready false

theorem deadline_keeps [Clock] (s : Subscriber) : s.deadline.Keeps P := by
  rw [deadline]
  split
  · exact Operation.keeps_pure none
  · refine Operation.keeps_clock.bind fun now => ?_
    split
    · exact Operation.keeps_pure _
    · exact Operation.keeps_fail _

theorem takeNow_keeps (hP : Bus.Stable P) (s : Subscriber) : s.takeNow.Keeps P :=
  fun bus _ hbus => hP.take bus s hbus

theorem receive_keeps [Clock] (hP : Bus.Stable P) (s : Subscriber) (nonBlocking : Bool) :
    (s.receive nonBlocking).Keeps P := by
  refine (passGate_keeps hP s.endpoint).bind fun _ => ?_
  cases nonBlocking with
  | true => exact (Operation.keeps_pure PUnit.unit).bind fun _ => takeNow_keeps hP s
  | false =>
    refine s.deadline_keeps.bind fun deadline => ?_
    exact (Operation.keeps_await _).bind fun _ => takeNow_keeps hP s

end Subscriber

/-- A poll looks at the bus and changes nothing. -/
theorem Poller.poll_keeps [Clock] (p : Poller) (timeout : Duration) : (p.poll timeout).Keeps P := by
  refine (Operation.keeps_deadline _).bind fun deadline => ?_
  exact (Operation.keeps_await _).bind fun _ => Operation.keeps_look _

theorem ReaderWait.wait_keeps [Clock] (w : ReaderWait) (updated : Bus → Bool) (looks : Nat) :
    (w.wait updated looks).Keeps P := by
  induction looks with
  | zero => exact Operation.keeps_pure none
  | succ looks ih =>
    refine (Operation.keeps_look _).bind fun isUpdated => ?_
    refine Operation.keeps_clock.bind fun now => ?_
    split
    · exact Operation.keeps_pure _
    · exact Operation.keeps_pure _
    · exact (Operation.keeps_sleep _).bind fun _ => ih

/-- A wait for readers looks at the bus time and again and changes nothing. -/
theorem PublisherSet.awaitReaders_keeps [Clock] (ps : PublisherSet) (s : Service) (timeout : Duration) (looks : Nat)
    (start : Duration → Except Breakdown ReaderWait) : (ps.awaitReaders s timeout looks start).Keeps P := by
  rw [awaitReaders]
  split
  · exact Operation.keeps_pure _
  · refine Operation.keeps_clock.bind fun now => ?_
    split
    · exact Operation.keeps_fail _
    · rename_i w _
      refine (w.wait_keeps _ looks).bind fun result => ?_
      split_ifs
      · exact (Operation.keeps_report _).bind fun _ => Operation.keeps_pure _
      · exact (Operation.keeps_pure PUnit.unit).bind fun _ => Operation.keeps_pure _

namespace Aggregator

theorem receive_keeps [Clock] (hP : Bus.Stable P) (s : Subscriber) : (receive s).Keeps P := by
  have hreceive : s.receiveOneOrNone.Keeps P :=
    (s.receive_keeps hP true).bind fun _ => Operation.keeps_pure _
  refine hreceive.bind fun received => ?_
  cases received with
  | ok e => exact Operation.keeps_pure e
  | error fault => exact (Operation.keeps_report _).bind fun _ => Operation.keeps_pure none

theorem receiveAll_keeps [Clock] (hP : Bus.Stable P) (subs : List Subscriber) : (receiveAll subs).Keeps P := by
  induction subs with
  | nil => exact Operation.keeps_pure []
  | cons s rest ih => exact (receive_keeps hP s).bind fun _ => ih.bind fun _ => Operation.keeps_pure _

theorem tick_keeps (a : Aggregator) (batch : List (Option Event)) : (a.tick batch).Keeps P := by
  intro bus now hbus
  rw [tick]
  split
  · exact hbus
  · exact hbus

/-- An update passes gates and takes messages, and does nothing else to the bus. -/
theorem update_keeps [Clock] (hP : Bus.Stable P) (a : Aggregator) (timeout : Duration) :
    (a.update timeout).Keeps P := by
  refine (a.poller.poll_keeps timeout).bind fun ready => ?_
  exact (receiveAll_keeps hP (ready ++ a.nonPolled)).bind fun batch => a.tick_keeps batch

end Aggregator

end TopicHealth
