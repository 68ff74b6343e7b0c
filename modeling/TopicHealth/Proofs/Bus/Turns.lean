import TopicHealth.Proofs.Bus.Receive

/-!
# Loops that are followed for so many turns

A loop over the messages of a subscriber is followed for a number of turns, and one that has not ended by then waits
without end. So the number decides only whether a run ends: one that does is the same however much further the loop is
followed.

* `Call.Within`: a call that goes as another does, as far as it is followed.
* `Call.Within.run_eq`: runs that are not stuck.
* `Operation.within_of_le`: loops, by what each of their turns does.
* `Subscriber.loops_within`: the loops of a subscriber.
-/

namespace TopicHealth

/-- Nothing that others do ends a wait for nothing. -/
theorem Wait.pass_endless (bus : Bus) (now : Duration) (script : Script) :
    (Wait.unread [] none).pass bus now script = none := by
  have hisOver : ∀ bus now, (Wait.unread [] none).isOver bus now = false := by
    intro bus now
    simp [isOver]
  induction script generalizing bus now with
  | nil =>
    rw [pass, hisOver]
    rfl
  | cons deed rest ih =>
    obtain ⟨time, act⟩ := deed
    cases time with
    | none | some u =>
      rw [pass, hisOver]
      exact ih _ _

namespace Call

variable {α β : Type} {call other : Call α}

/-- The call goes as another does, until it waits without end. -/
inductive Within : Call α → Call α → Prop
  | done (bus : Bus) (notices : List Notice) (value : α) : Within (done bus notices value) (done bus notices value)
  | broken (bus : Bus) (notices : List Notice) (reason : Breakdown) :
    Within (broken bus notices reason) (broken bus notices reason)
  | wait (bus : Bus) (notices : List Notice) (reason : Wait) {resume resume' : Bus → Duration → Call α}
    (hresume : ∀ bus now, Within (resume bus now) (resume' bus now)) :
    Within (wait bus notices reason resume) (wait bus notices reason resume')
  | endless (bus : Bus) (notices : List Notice) (resume : Bus → Duration → Call α) (other : Call α) :
    Within (wait bus notices (.unread [] none) resume) other

theorem Within.refl (call : Call α) : call.Within call := by
  induction call with
  | done bus notices value => exact .done bus notices value
  | wait bus notices reason resume ih => exact .wait bus notices reason ih
  | broken bus notices reason => exact .broken bus notices reason

theorem Within.after (h : call.Within other) (earlier : List Notice) :
    (call.after earlier).Within (other.after earlier) := by
  cases h with
  | done bus notices value => exact .done bus (earlier ++ notices) value
  | broken bus notices reason => exact .broken bus (earlier ++ notices) reason
  | wait bus notices reason hresume => exact .wait bus (earlier ++ notices) reason hresume
  | endless bus notices resume other => exact .endless bus (earlier ++ notices) resume _

theorem Within.bind {next next' : α → Bus → Duration → Call β} (h : call.Within other)
    (hnext : ∀ value bus now, (next value bus now).Within (next' value bus now)) (now : Duration) :
    (call.bind now next).Within (other.bind now next') := by
  induction h generalizing now with
  | done bus notices value => exact (hnext value bus now).after notices
  | broken bus notices reason => exact .broken bus notices reason
  | wait bus notices reason _ ih => exact .wait bus notices reason fun bus now => ih bus now now
  | endless bus notices resume other => exact .endless bus notices _ _

/-- If a run of the call is not stuck, the run of the other is the same, whatever others do on the way. -/
theorem Within.run_eq (h : call.Within other) {now : Duration} {script : Script}
    (hended : (call.run now script).ending ≠ .stuck) : other.run now script = call.run now script := by
  induction h generalizing now script with
  | done | broken => rfl
  | wait bus notices reason _ ih =>
    rw [run] at hended
    rw [run, run]
    cases hpass : reason.pass bus now script with
    | none => rfl
    | some passed =>
      obtain ⟨bus', now', script'⟩ := passed
      rw [hpass] at hended
      have hrest := ih bus' now' hended
      dsimp only
      rw [hrest]
  | endless bus notices resume other =>
    rw [run, Wait.pass_endless] at hended
    exact absurd rfl hended

end Call

namespace Operation

variable {α β : Type}

/-- Wherever it begins, the operation goes as another does, until it waits without end. -/
def Within (op other : Operation α) : Prop := ∀ bus now, (op bus now).Within (other bus now)

theorem Within.bind {op other : Operation α} {next next' : α → Operation β} (h : op.Within other)
    (hnext : ∀ value, (next value).Within (next' value)) : (op >>= next).Within (other >>= next') :=
  fun bus now => (h bus now).bind (fun value => hnext value) now

theorem within_refl (op : Operation α) : op.Within op := fun bus now => .refl (op bus now)

theorem within_endless (next : Unit → Operation α) (other : Operation α) : (endless >>= next).Within other := by
  intro bus now
  have hwait : endless bus now = .wait bus [] (.unread [] none) fun bus _ => .done bus [] () := by
    rw [endless, await, if_neg]
    simp [Wait.isOver]
  change ((endless bus now).bind now next).Within _
  rw [hwait]
  exact .endless bus [] _ _

/-- A loop goes on as it did where it is followed further, if each turn does so whose rest does. -/
theorem within_of_le {σ : Type} {f : Nat → σ → Operation α} (hzero : ∀ x other, (f 0 x).Within other)
    (hturn : ∀ n n', (∀ x, (f n x).Within (f n' x)) → ∀ x, (f (n + 1) x).Within (f (n' + 1) x))
    {turns turns' : Nat} (h : turns ≤ turns') (x : σ) : (f turns x).Within (f turns' x) := by
  -- The loops go turn by turn together, until the first is not followed further.
  induction turns generalizing turns' x with
  | zero => exact hzero x _
  | succ turns ih =>
    cases turns' with
    | zero => cases h
    | succ turns' => exact hturn turns turns' (fun x => ih (Nat.le_of_succ_le_succ h) x) x

end Operation

namespace Subscriber

variable (s : Subscriber) {turns turns' further further' : Nat}

theorem drainFrom_within [Clock] (wait : Bool) (h : turns ≤ turns') (taken : Array Message) :
    (s.drainFrom wait turns taken).Within (s.drainFrom wait turns' taken) := by
  refine Operation.within_of_le (fun _ _ => Operation.within_endless _ _) (fun n n' ih taken => ?_) h taken
  refine (Operation.within_refl _).bind fun m => ?_
  cases m with
  | none => exact Operation.within_refl _
  | some m => exact ih (taken.push m)

theorem newestFrom_within [Clock] (wait : Bool) (h : turns ≤ turns') (latest : Option Message) (dropped : Nat) :
    (s.newestFrom wait turns latest dropped).Within (s.newestFrom wait turns' latest dropped) := by
  refine Operation.within_of_le (f := fun n kept => s.newestFrom wait n kept.1 kept.2)
    (fun _ _ => Operation.within_endless _ _) (fun n n' ih kept => ?_) h (latest, dropped)
  refine (Operation.within_refl _).bind fun m => ?_
  cases m with
  | none => exact Operation.within_refl _
  | some m => exact ih (some m, _)

theorem retryFrom_within [Clock] (h : turns ≤ turns') : (s.retryFrom turns).Within (s.retryFrom turns') := by
  refine Operation.within_of_le (f := fun n _ => s.retryFrom n) (fun _ _ => Operation.within_endless _ _)
    (fun n n' ih _ => ?_) h ()
  refine (Operation.within_refl _).bind fun m => ?_
  cases m with
  | none =>
    have hrest := ih ()
    dsimp only
    split_ifs
    · refine Operation.Within.bind ?_ fun _ => hrest
      exact Operation.within_refl _
    · exact hrest
  | some m => exact Operation.within_refl _

/-- A loop that begins with a look at the bus. -/
theorem turns_within {α : Type} {loop : Nat → Operation α} (h : further ≤ further')
    (hloop : ∀ turns turns', turns ≤ turns' → (loop turns).Within (loop turns')) :
    (s.turns further >>= loop).Within (s.turns further' >>= loop) := by
  intro bus now
  have hturns : ∀ further, s.turns further bus now = .done bus [] (bus.pending s + 1 + further) := fun _ => rfl
  rw [Operation.bind_of_done_nil (hturns further), Operation.bind_of_done_nil (hturns further')]
  exact hloop _ _ (Nat.add_le_add_left h _) bus now

/-- Each way to loop over the messages of a subscriber goes on as it did where it is followed further. -/
theorem loops_within [Clock] (wait : Bool) (h : further ≤ further') :
    (s.drainRaw wait further).Within (s.drainRaw wait further') ∧ (s.drain wait further).Within (s.drain wait further')
      ∧ (s.newest wait further).Within (s.newest wait further')
      ∧ (s.receiveRetrying further).Within (s.receiveRetrying further') := by
  have hdrainRaw : (s.drainRaw wait further).Within (s.drainRaw wait further') :=
    s.turns_within h fun _ _ hle => s.drainFrom_within wait hle #[]
  refine ⟨hdrainRaw, hdrainRaw.bind fun _ => Operation.within_refl _, ?_, ?_⟩
  · exact s.turns_within h fun _ _ hle => (s.newestFrom_within wait hle none 0).bind fun _ => Operation.within_refl _
  · exact s.retryFrom_within (Nat.add_le_add_left h furtherTurns)

end Subscriber

end TopicHealth
