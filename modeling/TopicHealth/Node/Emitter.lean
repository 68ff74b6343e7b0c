import TopicHealth.Bus.Call
import TopicHealth.Node.Feed
import TopicHealth.Wire.Event

/-!
# Emitters

An emitter is a feed at work. It sends a message at once and then one a period, and catches up with the clock
when it is late. It ends when its node shuts down or its time is over, and breaks down when its next message would
lie beyond the end of the clock.
-/

namespace TopicHealth

/-- The message that a feed sends at an instant. -/
def Feed.event (f : Feed) (now : Duration) : Event := ⟨now.toWord, f.valid, Payload.blank f.service 0⟩

/-- Whether an emitter is at work. -/
inductive Emitter.Phase where
  | idle
  | running
  | ended
  | broken
deriving DecidableEq, Repr

/-- A feed at work. -/
structure Emitter where
  feed : Feed
  period : Duration
  publisher : Publisher
  /-- When the emitter began. -/
  start : Duration := .zero
  /-- When it sends next. -/
  next : Duration := .zero
  sent : Nat := 0
  phase : Emitter.Phase := .idle

namespace Emitter

variable [Clock]

/-- Whether the emitter has nothing more to do. -/
def isOver (e : Emitter) : Bool := e.phase = .ended || e.phase = .broken

/-- When the emitter has something to do next. -/
def due? (e : Emitter) (now : Duration) : Option Duration :=
  match e.phase with
  | .idle => some now
  | .running => some e.next
  | .ended | .broken => none

/-- Whether the time of the feed is over. -/
def isExpired (e : Emitter) (now : Duration) : Bool :=
  e.feed.stopAfter.any fun span => decide (span ≤ now - e.start)

/-- Sends a message and plans the next one, at the latest of the present and one period after this one. -/
def emit (e : Emitter) (b : Bus) (now : Duration) : Bus × Emitter :=
  let b := b.send e.publisher (e.feed.event now).encode
  match e.next.later? e.period with
  | none => (b, { e with sent := e.sent + 1, phase := .broken })
  | some next => (b, { e with sent := e.sent + 1, next := if now < next then next else now })

/-- One turn of the loop: ends or sends. -/
def turn (e : Emitter) (b : Bus) (shutdown : Bool) (now : Duration) : Bus × List Notice × Emitter :=
  let stopped := Notice.publisherStopped e.feed.service e.sent
  if shutdown then (b, [stopped], { e with phase := .ended })
  else if e.isExpired now then
    (b, [.publisherExpired e.feed.service e.sent, stopped], { e with phase := .ended })
  else
    let (b, e) := e.emit b now
    (b, [], e)

/-- What an emitter does at an instant: nothing before it is due. -/
def step (e : Emitter) (b : Bus) (shutdown : Bool) (now : Duration) : Bus × List Notice × Emitter :=
  match e.phase with
  | .idle =>
    let (b, notices, e) := { e with start := now, next := now, phase := .running }.turn b shutdown now
    (b, .publisherStarted e.feed.service e.period e.feed.valid :: notices, e)
  | .running => if now < e.next then (b, [], e) else e.turn b shutdown now
  | .ended | .broken => (b, [], e)

end Emitter

end TopicHealth
