import TopicHealth.Bus.Signal
import TopicHealth.Ring

/-!
# Calls that may wait

An operation works on the bus at an instant, and a call is how far it has come: it has ended, or it waits for
something and goes on from the bus and the instant it is woken at. Time passes only while a call waits; with nothing
to wait for, an operation is a function of the bus.
-/

namespace TopicHealth

/-- The clock of a machine. -/
class Clock where
  /-- How many seconds it counts before instants do: the machine has been running when the program starts. -/
  lead : Nat
  /-- The shortest time that a sleep takes. -/
  shortestSleep : Duration
  shortestSleep_pos : Duration.zero < shortestSleep

/-- A clock that has been running for an hour, with a timer that counts milliseconds. A program runs on it where no
other is given. -/
instance Clock.usual : Clock where
  lead := 3600
  shortestSleep := .ofMillis 1
  shortestSleep_pos := by decide

/-- The instant a span after another; none where the clock is at or beyond 2^63 seconds, its end. -/
def Duration.later? [Clock] (now span : Duration) : Option Duration :=
  (now.add? span).filter fun t => decide (t.secs + Clock.lead < 2 ^ 63)

/-- What a call waits for. -/
inductive Wait where
  /-- A message for one of the readers, or the deadline. -/
  | unread (readers : List Nat) (deadline : Option Duration)
  /-- One of the signals, or the deadline. Without a signal there is nothing to wait for. -/
  | signalled (signals : List Signal) (deadline : Option Duration)
  /-- An instant. -/
  | asleep (wakening : Duration)

/-- Whether a call may go on. -/
def Wait.isOver (b : Bus) (now : Duration) : Wait → Bool
  | .unread readers deadline =>
    (b.readers.any fun r => readers.contains r.id && !r.queue.isEmpty) || deadline.any fun t => decide (t ≤ now)
  | .signalled signals deadline =>
    signals.isEmpty || signals.any b.isSet || deadline.any fun t => decide (t ≤ now)
  | .asleep wakening => decide (wakening ≤ now)

/-- When a call stops waiting whatever happens. -/
def Wait.deadline? : Wait → Option Duration
  | .unread _ deadline | .signalled _ deadline => deadline
  | .asleep wakening => some wakening

/-- Why a call broke down. -/
inductive Breakdown where
  /-- A deadline is beyond the end of the clock. -/
  | clockOverflow
  /-- The intervals of a service add up to more than a duration holds. -/
  | meanOverflow
deriving DecidableEq, Repr

/-- How far a call has come, with what it reported on the way. -/
inductive Call (α : Type) where
  | done (bus : Bus) (notices : List Notice) (value : α)
  | wait (bus : Bus) (notices : List Notice) (reason : Wait) (resume : Bus → Duration → Call α)
  | broken (bus : Bus) (notices : List Notice) (reason : Breakdown)

namespace Call

variable {α β : Type}

/-- Puts notices in front of those of a call. -/
def after (earlier : List Notice) : Call α → Call α
  | done bus notices value => done bus (earlier ++ notices) value
  | wait bus notices reason resume => wait bus (earlier ++ notices) reason resume
  | broken bus notices reason => broken bus (earlier ++ notices) reason

/-- Goes on with another call once this one is done. -/
def bind (now : Duration) (next : α → Bus → Duration → Call β) : Call α → Call β
  | done bus notices value => (next value bus now).after notices
  | wait bus notices reason resume => wait bus notices reason fun bus now => (resume bus now).bind now next
  | broken bus notices reason => broken bus notices reason

end Call

/-- Work on the bus from an instant on. -/
def Operation (α : Type) := Bus → Duration → Call α

namespace Operation

variable [Clock] {α β : Type}

instance : Monad Operation where
  pure value := fun bus _ => .done bus [] value
  bind first next := fun bus now => (first bus now).bind now next

/-- The instant. -/
def clock : Operation Duration := fun bus now => .done bus [] now

/-- The bus as it is. -/
def look (f : Bus → α) : Operation α := fun bus _ => .done bus [] (f bus)

/-- Changes the bus. -/
def change (f : Bus → Bus) : Operation Unit := fun bus _ => .done (f bus) [] ()

/-- Reports something. -/
def report (notices : List Notice) : Operation Unit := fun bus _ => .done bus notices ()

/-- Waits, unless there is nothing to wait for. -/
def await (reason : Wait) : Operation Unit := fun bus now =>
  if reason.isOver bus now then .done bus [] () else .wait bus [] reason fun bus _ => .done bus [] ()

/-- Waits for nothing, and so without end. -/
def endless : Operation Unit := await (.unread [] none)

/-- Breaks down. -/
def fail (reason : Breakdown) : Operation α := fun bus _ => .broken bus [] reason

/-- The deadline of a wait for at most a span. A span that ends beyond the clock is without end. -/
def deadline (span : Option Duration) : Operation (Option Duration) := do
  let now ← clock
  return span.bind now.later?

/-- Sleeps for a span, and no shorter than a sleep can be. A sleep that ends beyond the clock does not end. -/
def sleep (span : Duration) : Operation Unit := do
  match (← clock).later? (if span < Clock.shortestSleep then Clock.shortestSleep else span) with
  | some wakening => await (.asleep wakening)
  | none => endless

end Operation

variable [Clock]

/-- Waits for one of some signals, for at most the given span, and gives the place of the first that is set. -/
def Signal.waitFirst (signals : List Signal) (span : Option Duration) : Operation (Option Nat) := do
  Operation.await (.signalled signals (← Operation.deadline span))
  Operation.look fun b => b.firstSet signals

/-- Waits for a signal, for at most the given span, and tells whether it is set. -/
def Signal.wait (signal : Signal) (span : Option Duration) : Operation Bool :=
  return (← Signal.waitFirst [signal] span).isSome

end TopicHealth
