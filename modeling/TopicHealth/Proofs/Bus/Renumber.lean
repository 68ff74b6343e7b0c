import TopicHealth.Proofs.Bus.Gate
import TopicHealth.Proofs.Bus.Holders

/-!
# Numbers

The numbers of readers serve to tell them apart. With other numbers that do so as well, everything happens on the bus
as it did before, and calls that nobody disturbs end with the same.

* `Renumbering`: other numbers, given out in the same order from some number on.
* `Bus.renumber`: the bus with other numbers, and what each change of the bus becomes with them.
* `Call.Alike`, `Operation.Alike`: calls that do the same on a bus with other numbers; `Alike.run`.
-/

namespace TopicHealth

variable {ρ : Nat → Nat}

def Reader.renumber (ρ : Nat → Nat) (r : Reader) : Reader := { r with id := ρ r.id }

def Subscriber.renumber (ρ : Nat → Nat) (s : Subscriber) : Subscriber := { s with reader := ρ s.reader }

def Wait.renumber (ρ : Nat → Nat) : Wait → Wait
  | .unread readers deadline => .unread (readers.map ρ) deadline
  | .signalled signals deadline => .signalled signals deadline
  | .asleep wakening => .asleep wakening

/-- The bus with other numbers. -/
def Bus.renumber (ρ : Nat → Nat) (b : Bus) : Bus :=
  { b with
    readers := b.readers.map (Reader.renumber ρ)
    serial := ρ b.serial }

/-- An outcome with other numbers for the bus and the value. -/
def Outcome.renumber {ε α : Type} (ρ : Nat → Nat) (f : α → α) (o : Outcome ε α) : Outcome ε α :=
  ⟨o.bus.renumber ρ, o.notices, o.result.map f⟩

namespace Bus

/-! ## Publishers -/

end Bus

/-! ## Calls -/

/-- A wait is over under the other numbers when it is under these. -/
theorem Wait.isOver_renumber (hρ : Function.Injective ρ) (reason : Wait) (bus : Bus) (now : Duration) :
    (reason.renumber ρ).isOver (bus.renumber ρ) now = reason.isOver bus now := by
  cases reason with
  | signalled | asleep => rfl
  | unread readers deadline =>
    have hwaits : ∀ r : Reader, ((readers.map ρ).contains (r.renumber ρ).id && !(r.renumber ρ).queue.isEmpty) =
        (readers.contains r.id && !r.queue.isEmpty) := by
      intro r
      congr 1
      rw [Bool.eq_iff_iff, List.contains_iff_mem, List.contains_iff_mem]
      exact List.mem_map_of_injective hρ
    simp only [Wait.renumber, Wait.isOver, Bus.renumber, List.any_map]
    congr 2
    exact funext hwaits

theorem Wait.deadline?_renumber (reason : Wait) : (reason.renumber ρ).deadline? = reason.deadline? := by
  cases reason <;> rfl

/-- How a run ends, with other numbers for the value. -/
def Ending.map {α : Type} (f : α → α) : Ending α → Ending α
  | .done value => .done (f value)
  | .broken reason => .broken reason
  | .stuck => .stuck

variable {α β : Type} {f : α → α} {g : β → β}

namespace Call

/-- The second call does on buses with other numbers what the first one does. -/
inductive Alike (ρ : Nat → Nat) (f : α → α) : Call α → Call α → Prop
  | done (bus : Bus) (notices : List Notice) (value : α) :
    Alike ρ f (.done bus notices value) (.done (bus.renumber ρ) notices (f value))
  | wait (bus : Bus) (notices : List Notice) (reason : Wait) {resume resume' : Bus → Duration → Call α}
    (h : ∀ bus now, Alike ρ f (resume bus now) (resume' (bus.renumber ρ) now)) :
    Alike ρ f (.wait bus notices reason resume) (.wait (bus.renumber ρ) notices (reason.renumber ρ) resume')
  | broken (bus : Bus) (notices : List Notice) (reason : Breakdown) :
    Alike ρ f (.broken bus notices reason) (.broken (bus.renumber ρ) notices reason)

namespace Alike

theorem after {call call' : Call α} (h : Alike ρ f call call') (earlier : List Notice) :
    Alike ρ f (call.after earlier) (call'.after earlier) := by
  cases h with
  | done => exact .done _ _ _
  | wait _ _ _ h => exact .wait _ _ _ h
  | broken => exact .broken _ _ _

/-- What is alike goes on alike, after every wait. -/
theorem bind {call call' : Call α} {now : Duration} {next next' : α → Bus → Duration → Call β}
    (h : Alike ρ f call call')
    (hnext : ∀ value bus now, Alike ρ g (next value bus now) (next' (f value) (bus.renumber ρ) now)) :
    Alike ρ g (call.bind now next) (call'.bind now next') := by
  induction h generalizing now with
  | done bus notices value => exact (hnext value bus now).after notices
  | wait bus notices reason _ ih => exact .wait _ _ _ fun bus now => ih bus now
  | broken bus notices reason => exact .broken _ _ _

/-- Where nobody disturbs it, the second call ends as the first one does. -/
theorem run (hρ : Function.Injective ρ) {call call' : Call α} (h : Alike ρ f call call') (now : Duration) :
    let r := call.run now []
    call'.run now [] = ⟨r.bus.renumber ρ, r.now, r.notices, r.script, r.ending.map f⟩ := by
  induction h generalizing now with
  | done | broken => rfl
  | wait bus notices reason _ ih =>
    simp only [Call.run, Wait.pass_nil, Wait.isOver_renumber hρ, Wait.deadline?_renumber]
    split_ifs
    · simp only [ih bus now]
    · cases reason.deadline? with
      | none => rfl
      | some t => simp only [Option.map_some, ih bus t]

end Alike

end Call

namespace Operation

/-- The second operation does on buses with other numbers what the first one does. -/
def Alike (ρ : Nat → Nat) (f : α → α) (op op' : Operation α) : Prop :=
  ∀ bus now, (op bus now).Alike ρ f (op' (bus.renumber ρ) now)

theorem Alike.bind {op op' : Operation α} {next next' : α → Operation β} (h : Alike ρ f op op')
    (hnext : ∀ value, Alike ρ g (next value) (next' (f value))) : Alike ρ g (op >>= next) (op' >>= next') := by
  intro bus now
  exact (h bus now).bind hnext

end Operation

end TopicHealth
