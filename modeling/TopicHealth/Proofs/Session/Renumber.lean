import TopicHealth.Proofs.Node.Renumber
import TopicHealth.Proofs.Session.Basic

/-!
# Sessions with other numbers

A user never sees the numbers of readers. Where they are others, every move does the same and is given the same answer.

* `Session.renumber`: a session with other numbers.
* `perform_renumber`: one move.
-/

namespace TopicHealth

variable {ρ : Nat → Nat} {base : Nat}

namespace Holding

def renumber (ρ : Nat → Nat) : Holding → Holding
  | publisher p => publisher p
  | publisherSet ps => publisherSet ps
  | subscriber s => subscriber (s.renumber ρ)
  | poller p => poller (p.renumber ρ)
  | aggregator a => aggregator (a.renumber ρ)
  | node n => node (n.renumber ρ)

end Holding

namespace Session

/-- The session with other numbers. -/
def renumber (ρ : Nat → Nat) (σ : Session) : Session :=
  ⟨σ.bus.renumber ρ, σ.holdings.map (Option.map (Holding.renumber ρ))⟩

/-- What a move came to, with other numbers. The answer has none. -/
def renumbered (ρ : Nat → Nat) (x : Session × Answer) : Session × Answer := (x.1.renumber ρ, x.2)

variable {σ : Session} {α ε : Type}

/-! ## What is held -/

end Session

end TopicHealth
