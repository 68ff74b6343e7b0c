import TopicHealth.Proofs.Bus.Action
import TopicHealth.Proofs.Bus.Receive

/-!
# Calls on terms

What a call may count on and what it may ask for, on a clock that does not go back: it finds the bus in a certain
state whenever it is woken, waits for certain things only, so many times at most, and ends with a value of a certain
kind at the instant that it is woken last. A call that abides by its terms does not break down.

* `Duration.later?_ne_none_of_le`: what can be reached from a later instant.
* `Call.Abides.bind`: a call that goes on with another.
* `Terms.any`, `Terms.ungated`: no terms at all, and a bus whose gates are out of use.
* `Poller.poll_abides`, `Subscriber.receive_abides`: polls, and receives that do not wait for messages.
-/

namespace TopicHealth

/-! ## The clock -/

/-- What an earlier instant reaches lies before the end of the clock if a later one does. -/
theorem Duration.later?_ne_none_of_le [Clock] {now now' span : Duration} (hle : now ≤ now')
    (h : now'.later? span ≠ none) : now.later? span ≠ none := by
  obtain ⟨t', ht'⟩ := Option.ne_none_iff_exists'.mp h
  obtain ⟨hadd', hend'⟩ := Option.filter_eq_some_iff.mp ht'
  rw [le_def] at hle
  cases hadd : now.add? span with
  | none =>
    -- The sum with the later instant would be over the range as well.
    rw [add?_eq_none_iff] at hadd
    have hnone : now'.add? span = none := add?_eq_none_iff.mpr (Nat.le_trans hadd (Nat.add_le_add_right hle _))
    rw [hnone] at hadd'
    cases hadd'
  | some t =>
    have hsum := toNanos_add? hadd
    have hsum' := toNanos_add? hadd'
    have hsecs : t.secs ≤ t'.secs := by
      have hnanos' := t'.nanos_lt
      rw [toNanos] at hsum hsum'
      omega
    rw [later?, hadd, Option.filter_some, if_pos]
    · exact Option.some_ne_none t
    · exact decide_eq_true (Nat.lt_of_le_of_lt (Nat.add_le_add_right hsecs _) (of_decide_eq_true hend'))

namespace Wait

/-- A wait is over when its time is. -/
theorem isOver_of_deadline {reason : Wait} {now t : Duration} (h : reason.deadline? = some t) (hle : t ≤ now)
    (bus : Bus) : reason.isOver bus now = true := by
  cases reason with
  | unread readers deadline | signalled signals deadline =>
    rw [deadline?] at h
    rw [isOver, h, Option.any_some, decide_eq_true hle, Bool.or_true]
  | asleep wakening =>
    rw [deadline?, Option.some.injEq] at h
    rw [isOver, h]
    exact decide_eq_true hle

end Wait

/-- What a call may count on, and what it may ask for. -/
structure Terms where
  /-- How the call finds the bus, and how it leaves it. -/
  bus : Bus → Prop
  /-- What the call may wait for. -/
  wait : Wait → Prop
  take : ∀ b s, bus b → bus (b.take s).2
  send : ∀ b p m, bus b → bus (b.send p m)
  /-- No gate is ever met, or the signals of gates may be set and waited for. -/
  gate : (∀ b, bus b → b.gates.active = false)
    ∨ (∀ b gate which value, bus b → bus (b.putSignal (.ofGate gate which) value))
      ∧ ∀ signals, wait (.signalled signals none)

namespace Terms

/-- No terms. -/
def any : Terms where
  bus _ := True
  wait _ := True
  take _ _ _ := trivial
  send _ _ _ _ := trivial
  gate := .inr ⟨fun _ _ _ _ _ => trivial, fun _ => trivial⟩

/-- The gates are out of use, and no wait is without end. -/
def ungated : Terms where
  bus b := b.gates.active = false
  wait reason := reason.deadline? ≠ none
  take _ _ h := h
  send _ _ _ h := h
  gate := .inl fun _ h => h

/-- Others leave the gates out of use. -/
theorem ungated_act {b : Bus} (h : ungated.bus b) {action : Bus.Action} (hungated : action.Ungated) :
    ungated.bus (b.act action) := by
  cases action with
  | openPublisher endpoint =>
    rw [Bus.act, Bus.bus_openPublisher]
    exact h
  | subscribe endpoint addr conflate =>
    rw [Bus.act, Bus.subscribe]
    cases IpAddress.parse? addr <;> exact h
  | setGates gates => exact hungated
  | closePublisher | send | retain | release | take | setSignals => exact h

end Terms

variable {α β : Type} {T : Terms} {P : Duration → α → Prop} {Q : Duration → β → Prop} {k l : Nat}

/-! ## Calls -/

namespace Call

/-- The call waits at most so many times, if it is woken on its terms, and ends with a value that suits the instant. -/
def Abides (T : Terms) (P : Duration → α → Prop) : Nat → Duration → Call α → Prop
  | _, now, done bus _ value => T.bus bus ∧ P now value
  | k, now, wait bus _ reason resume => T.bus bus ∧ T.wait reason ∧ 0 < k
      ∧ ∀ bus now', T.bus bus → now ≤ now' → (resume bus now').Abides T P (k - 1) now'
  | _, _, broken _ _ _ => False

variable {now : Duration}

theorem Abides.after {call : Call α} (h : call.Abides T P k now) (earlier : List Notice) :
    (call.after earlier).Abides T P k now := by
  cases call with
  | done | wait | broken => exact h

/-- More waits are allowed then. -/
theorem Abides.mono {call : Call α} (h : call.Abides T P k now) (hle : k ≤ l) : call.Abides T P l now := by
  induction call generalizing k l now with
  | done => exact h
  | wait bus notices reason resume ih =>
    obtain ⟨hbus, hreason, hpos, hresume⟩ := h
    refine ⟨hbus, hreason, Nat.lt_of_lt_of_le hpos hle, ?_⟩
    intro bus now' hbus hnow
    exact ih bus now' (hresume bus now' hbus hnow) (Nat.sub_le_sub_right hle 1)
  | broken => exact h

/-- The waits of both calls add up. -/
theorem Abides.bind {call : Call α} {next : α → Bus → Duration → Call β} (h : call.Abides T P k now)
    (hnext : ∀ value bus now', T.bus bus → now ≤ now' → P now' value → (next value bus now').Abides T Q l now') :
    (call.bind now next).Abides T Q (k + l) now := by
  induction call generalizing k now with
  | done bus notices value =>
    -- None of the waits that the first call may have is used up.
    have hrest := hnext value bus now h.1 (Nat.le_refl _) h.2
    exact (hrest.mono (Nat.le_add_left l k)).after notices
  | wait bus notices reason resume ih =>
    obtain ⟨hbus, hreason, hpos, hresume⟩ := h
    refine ⟨hbus, hreason, Nat.add_pos_left hpos l, ?_⟩
    intro bus now' hbus hnow
    have hrest := ih bus now' (hresume bus now' hbus hnow) fun value bus later hbus hlater =>
      hnext value bus later hbus (Nat.le_trans hnow hlater)
    rw [Nat.sub_add_comm hpos]
    exact hrest
  | broken => exact h

end Call

/-! ## Operations -/

namespace Operation

/-- The operation abides by the terms whenever it begins, whatever it ends with. -/
def Abides (T : Terms) (k : Nat) (op : Operation α) : Prop :=
  ∀ bus now, T.bus bus → (op bus now).Abides T (fun _ _ => True) k now

/-- The waits of both add up. -/
theorem Abides.bind {op : Operation α} {next : α → Operation β} (h : op.Abides T k)
    (hnext : ∀ value, (next value).Abides T l) : (op >>= next).Abides T (k + l) := by
  intro bus now hbus
  exact (h bus now hbus).bind fun value bus now' hbus _ _ => hnext value bus now' hbus

theorem abides_pure (value : α) : (pure value : Operation α).Abides T 0 := fun _ _ hbus => ⟨hbus, trivial⟩

theorem abides_look (f : Bus → α) : (look f).Abides T 0 := fun _ _ hbus => ⟨hbus, trivial⟩

theorem abides_report (notices : List Notice) : (report notices).Abides T 0 := fun _ _ hbus => ⟨hbus, trivial⟩

theorem abides_change {f : Bus → Bus} (hf : ∀ bus, T.bus bus → T.bus (f bus)) : (change f).Abides T 0 :=
  fun bus _ hbus => ⟨hf bus hbus, trivial⟩

/-- A call that waits for what it may asks for one wait. -/
theorem abides_await {reason : Wait} (h : T.wait reason) : (await reason).Abides T 1 := by
  intro bus now hbus
  rw [await]
  split_ifs
  · exact ⟨hbus, trivial⟩
  · exact ⟨hbus, h, Nat.one_pos, fun bus _ hbus _ => ⟨hbus, trivial⟩⟩

end Operation

namespace Subscriber

/-- A receive waits at its gate, if there is one. -/
theorem passGate_abides (T : Terms) (endpoint : String) : (passGate endpoint).Abides T 1 := by
  rcases T.gate with hungated | ⟨hput, hwait⟩
  · intro bus now hbus
    rw [passGate_of_inactive endpoint (hungated bus hbus)]
    exact ⟨hbus, trivial⟩
  · have hchange : ∀ gate which value, (Operation.change fun b => b.putSignal (.ofGate gate which) value).Abides T 0 :=
      fun gate which value => Operation.abides_change fun bus hbus => hput bus gate which value hbus
    refine Operation.Abides.bind (k := 0) (l := 1) (Operation.abides_look _) fun barring => ?_
    cases barring with
    | none => exact fun bus now hbus => (Operation.abides_pure () bus now hbus).mono (Nat.zero_le 1)
    | some gate =>
      have hpass := (Operation.abides_await (hwait [.ofGate gate .ready])).bind fun _ => hchange gate .ready false
      have hcalled := (hchange gate .called true).bind fun _ => hpass
      exact (Operation.abides_report _).bind fun _ => hcalled

/-- A receive that does not wait for messages may have to wait at its gate. -/
theorem receive_abides [Clock] (T : Terms) (s : Subscriber) : (s.receive true).Abides T 1 := by
  have htake : s.takeNow.Abides T 0 := fun bus _ hbus => ⟨T.take bus s hbus, trivial⟩
  exact (passGate_abides T s.endpoint).bind fun _ => (Operation.abides_pure PUnit.unit).bind fun _ => htake

end Subscriber

/-- A poll waits once, and gives no more subscribers than it waits on. -/
theorem Poller.poll_abides [Clock] (p : Poller) {timeout now : Duration} {bus : Bus} (hbus : T.bus bus)
    (hwait : T.wait (.unread p.readers (now.later? timeout))) :
    (p.poll timeout bus now).Abides T (fun _ ready => ready.length ≤ p.subscribers.length) 1 now := by
  have hready : ∀ bus, (p.ready bus).length ≤ p.subscribers.length := fun bus => List.length_filter_le _ _
  rw [p.poll_eq]
  split_ifs
  · exact ⟨hbus, hready bus⟩
  · exact ⟨hbus, hwait, Nat.one_pos, fun bus _ hbus _ => ⟨hbus, hready bus⟩⟩

end TopicHealth
