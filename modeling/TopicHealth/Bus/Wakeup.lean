import TopicHealth.Bus.Poller

/-!
# Wakeups

How a poll sleeps and misses no message, step by step and with another party at work between the steps. A delivery
puts the message into the reader's queue and then leaves a token, unless one is there. A poll takes the token away,
looks at its readers one by one, and if it saw no message sleeps until there is a token or its time is over. A token
may be left over from a message that is gone; the poll then looks again.
-/

namespace TopicHealth

/-- What a poll is doing. -/
inductive Polling.Phase where
  /-- Takes tokens away. -/
  | draining
  /-- Looks at the readers that are left, having seen messages at others; for the last time or not. -/
  | scanning (seen left : List Nat) (last : Bool)
  | waiting
  | finished (ready : List Nat)
deriving DecidableEq, Repr

/-- A poll under way. -/
structure Polling where
  bus : Bus
  /-- The readers of the poller, in the order of their registration. -/
  readers : List Nat
  token : Bool
  phase : Polling.Phase := .draining
  /-- The reader of a delivery that has not yet left its token. -/
  delivering : Option Nat := none

namespace Polling

/-- A move of the poll or of the other party. -/
inductive Move where
  /-- The next step of the poll, whose time may be over. -/
  | poll (late : Bool)
  /-- The other party puts a message into a queue. -/
  | enqueue (reader : Nat) (m : Message)
  /-- The other party leaves the token of its delivery. -/
  | wake
  /-- The other party takes a message. -/
  | take (reader : Nat)
deriving DecidableEq

/-- Whether messages wait at a reader. -/
def hasUnread (p : Polling) (reader : Nat) : Bool := (p.bus.reader? reader).any fun r => !r.queue.isEmpty

/-- The next step of the poll. -/
def stepPoll (p : Polling) (late : Bool) : Polling :=
  match p.phase with
  | .draining => if p.token then { p with token := false } else { p with phase := .scanning [] p.readers false }
  | .scanning seen (r :: left) last =>
    { p with phase := .scanning (if p.hasUnread r then seen ++ [r] else seen) left last }
  | .scanning seen [] last => { p with phase := if late || last || !seen.isEmpty then .finished seen else .waiting }
  | .waiting =>
    if p.token then { p with token := false, phase := .draining }
    else if late then { p with phase := .scanning [] p.readers true } else p
  | .finished _ => p

/-- Makes a move. One that cannot be made changes nothing: the other party makes one delivery at a time. -/
def step (p : Polling) (move : Move) : Polling :=
  match move, p.delivering with
  | .poll late, _ => p.stepPoll late
  | .enqueue r m, none => { p with bus := p.bus.modifyReader r fun q => q.deliver m, delivering := some r }
  | .wake, some r => { p with token := p.token || p.readers.contains r, delivering := none }
  | .take r, none => { p with bus := p.bus.modifyReader r fun q => { q with queue := q.queue.tail } }
  | _, _ => p

/-- Makes moves one after another. -/
def steps (p : Polling) (moves : List Move) : Polling := moves.foldl step p

end Polling

/-- A poll about to begin, with or without a token left over from before. -/
def Poller.polling (p : Poller) (b : Bus) (token : Bool) : Polling := { bus := b, readers := p.readers, token }

end TopicHealth
