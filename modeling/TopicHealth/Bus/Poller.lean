import TopicHealth.Bus.Call

/-!
# Pollers

A poller waits on several subscribers at once, each of which it keeps a clone of.
-/

namespace TopicHealth

/-- Subscribers to wait on, in the order of their registration. -/
structure Poller where
  subscribers : List Subscriber := []
deriving DecidableEq

namespace Poller

variable [Clock]

/-- Adds a subscriber, of which the poller keeps a clone. -/
def register (p : Poller) (b : Bus) (s : Subscriber) : Bus × Poller :=
  (b.retain s, ⟨p.subscribers ++ [s]⟩)

/-- Drops the poller and its clones. -/
def close (p : Poller) (b : Bus) : Bus := p.subscribers.foldl Bus.release b

/-- The readers to wait on, in the order of their registration. -/
def readers (p : Poller) : List Nat := p.subscribers.map Subscriber.reader

/-- The subscribers that have messages waiting, in order. -/
def ready (p : Poller) (b : Bus) : List Subscriber := p.subscribers.filter fun s => 0 < b.pending s

/-- Waits until a subscriber has messages, for at most the given span, and gives those that do. A span that ends
beyond the clock is without end. -/
def poll (p : Poller) (timeout : Duration) : Operation (List Subscriber) := do
  Operation.await (.unread p.readers (← Operation.deadline (some timeout)))
  Operation.look p.ready

end Poller

end TopicHealth
