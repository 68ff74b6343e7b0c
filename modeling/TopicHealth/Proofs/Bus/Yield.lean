import TopicHealth.Bus.Run

/-!
# What calls end with

Whatever others do while a call waits, a fact about its value, and about what it has reported by then, can be shown
from the call alone: it has to hold however the call is woken.

* `Call.Reports.bind`, `Call.Yields.bind`: a call that goes on with another.
* `Call.Reports.of_run`, `Call.Yields.of_run`: a run that ends with a value ends with one that the call yields.
-/

namespace TopicHealth

namespace Call

variable {α β : Type}

/-! ## Notices and values -/

section Reports

variable {Q : List Notice → α → Prop} {R : List Notice → β → Prop}

/-- The notices of a call and its value are related, whatever the call is woken with; one that breaks down has no
value. -/
def Reports : Call α → (List Notice → α → Prop) → Prop
  | done _ notices value, Q => Q notices value
  | wait _ notices _ resume, Q => ∀ bus now, (resume bus now).Reports fun more value => Q (notices ++ more) value
  | broken .., _ => True

theorem Reports.mono {Q' : List Notice → α → Prop} {call : Call α} (h : call.Reports Q)
    (himp : ∀ notices value, Q notices value → Q' notices value) : call.Reports Q' := by
  induction call generalizing Q Q' with
  | done bus notices value => exact himp notices value h
  | broken => trivial
  | wait bus notices reason resume ih =>
    intro bus now
    exact ih bus now (h bus now) fun more value => himp (notices ++ more) value

theorem Reports.after {call : Call α} {earlier : List Notice}
    (h : call.Reports fun notices value => Q (earlier ++ notices) value) : (call.after earlier).Reports Q := by
  cases call with
  | done | broken => exact h
  | wait bus notices reason resume =>
    simp only [Call.after, Reports, List.append_assoc]
    exact h

/-- The notices of the second call come after those of the first. -/
theorem Reports.bind {call : Call α} {now : Duration} {next : α → Bus → Duration → Call β} (h : call.Reports Q)
    (hnext : ∀ notices value bus now, Q notices value →
      (next value bus now).Reports fun more value => R (notices ++ more) value) :
    (call.bind now next).Reports R := by
  induction call generalizing now Q R with
  | done bus notices value => exact (hnext notices value bus now h).after
  | broken => trivial
  | wait bus notices reason resume ih =>
    intro bus now
    refine ih bus now (h bus now) fun more value bus now hvalue => ?_
    simp only [← List.append_assoc]
    exact hnext (notices ++ more) value bus now hvalue

theorem Reports.of_run {call : Call α} {now : Duration} {script : Script} {value : α} (h : call.Reports Q)
    (hrun : (call.run now script).ending = .done value) : Q (call.run now script).notices value := by
  induction call generalizing now script Q with
  | done =>
    cases hrun
    exact h
  | broken => cases hrun
  | wait bus notices reason resume ih =>
    rw [run] at hrun ⊢
    cases hpass : reason.pass bus now script with
    | none =>
      rw [hpass] at hrun
      cases hrun
    | some next =>
      rw [hpass] at hrun
      exact ih _ _ (h _ _) hrun

end Reports

/-! ## Values -/

section Yields

variable {P : α → Prop} {Q : β → Prop}

/-- The value of a call has a property, whatever the call is woken with; one that breaks down has none. -/
def Yields (P : α → Prop) : Call α → Prop
  | done _ _ value => P value
  | wait _ _ _ resume => ∀ bus now, (resume bus now).Yields P
  | broken _ _ _ => True

theorem yields_iff_reports {call : Call α} : call.Yields P ↔ call.Reports fun _ => P := by
  induction call with
  | done | broken => exact Iff.rfl
  | wait bus notices reason resume ih => exact forall_congr' fun bus => forall_congr' fun now => ih bus now

/-- The second call may go on with any value that the first yields, on any bus and at any instant. -/
theorem Yields.bind {call : Call α} {now : Duration} {next : α → Bus → Duration → Call β} (h : call.Yields P)
    (hnext : ∀ value bus now, P value → (next value bus now).Yields Q) : (call.bind now next).Yields Q := by
  rw [yields_iff_reports] at h ⊢
  exact h.bind fun _ value bus now hvalue => yields_iff_reports.mp (hnext value bus now hvalue)

/-- Every call yields a value of its type. -/
theorem yields_true (call : Call α) : call.Yields fun _ => True := by
  induction call with
  | done | broken => trivial
  | wait bus notices reason resume ih => exact ih

theorem Yields.of_run {call : Call α} {now : Duration} {script : Script} {value : α} (h : call.Yields P)
    (hrun : (call.run now script).ending = .done value) : P value :=
  (yields_iff_reports.mp h).of_run hrun

end Yields

end Call

end TopicHealth
