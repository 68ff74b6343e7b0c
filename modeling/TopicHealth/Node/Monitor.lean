import TopicHealth.Aggregator
import TopicHealth.Node.Config
import TopicHealth.Report

/-!
# Monitors

A monitor is the loop of a node: it updates the aggregator tick by tick, reports its health at an interval, and
ends when it is told to or its time is over. It breaks down when an instant that it has to keep lies beyond the
end of the clock; an end of its time beyond it means that the time has no end.
-/

namespace TopicHealth

/-- What a monitor keeps from one turn of its loop to the next. -/
structure Monitor where
  aggregator : Aggregator
  /-- When its time is over; never when there is none. -/
  deadline : Option Duration
  /-- When the next turn is due. -/
  nextTick : Duration
  /-- When the next report is due. -/
  nextReport : Duration
  /-- Whether the last report was healthy, once there was one. -/
  lastHealthy : Option Bool

namespace Monitor

variable [Clock]

/-- What a monitor is doing. -/
inductive Phase where
  | idle (aggregator : Aggregator)
  | asleep (monitor : Monitor)
  | updating (monitor : Monitor) (reason : Wait) (resume : Bus → Duration → Call Aggregator)
  | ended (report : Report)
  | broken (reason : Breakdown)

/-- When a monitor has something to do next. -/
def Phase.due? (b : Bus) (now : Duration) : Phase → Option Duration
  | idle _ => some now
  | asleep m => some m.nextTick
  | updating _ reason _ => if reason.isOver b now then some now else reason.deadline?
  | ended _ | broken _ => none

/-- Whether the monitor has come to an end. -/
def Phase.isOver : Phase → Bool
  | ended _ | broken _ => true
  | idle _ | asleep _ | updating .. => false

/-- Reports, if a report is due. None if the next one would be beyond the end of the clock. -/
def tell (m : Monitor) (interval now : Duration) : List Notice × Option Monitor :=
  if now < m.nextReport then ([], some m)
  else
    let report := Report.ofTracker m.aggregator.tracker
    ([report.notice m.lastHealthy], (now.later? interval).map fun nextReport =>
      { m with nextReport, lastHealthy := some report.isHealthy })

/-- Ends a turn: reports and plans the next turn, at the latest of the present and one tick after this one. -/
def endTurn (m : Monitor) (c : Node.Config) (now : Duration) : List Notice × Phase :=
  match m.tell c.reportInterval now with
  | (notices, none) => (notices, .broken .clockOverflow)
  | (notices, some m) =>
    match m.nextTick.later? c.tick with
    | none => (notices, .broken .clockOverflow)
    | some next => (notices, .asleep { m with nextTick := if now < next then next else now })

/-- Goes on from where an update has come to. -/
def settle (m : Monitor) (c : Node.Config) (now : Duration) : Call Aggregator → Bus × List Notice × Phase
  | .done b notices aggregator =>
    let (more, phase) := { m with aggregator }.endTurn c now
    (b, notices ++ more, phase)
  | .wait b notices reason resume => (b, notices, .updating m reason resume)
  | .broken b notices reason => (b, notices, .broken reason)

/-- Begins a turn: ends, or updates the aggregator. -/
def beginTurn (m : Monitor) (c : Node.Config) (b : Bus) (shutdown : Bool) (now : Duration) :
    Bus × List Notice × Phase :=
  let ended := Phase.ended (Report.ofTracker m.aggregator.tracker)
  if shutdown then (b, [.shutdownRequested], ended)
  else if m.deadline.any fun t => decide (t ≤ now) then (b, [], ended)
  else m.settle c now (m.aggregator.update c.updateTimeout b now)

/-- What a monitor does at an instant: nothing before it is due. -/
def Phase.step (phase : Phase) (c : Node.Config) (b : Bus) (shutdown : Bool) (now : Duration) :
    Bus × List Notice × Phase :=
  match phase with
  | idle aggregator =>
    match now.later? c.reportInterval with
    | none => (b, [], .broken .clockOverflow)
    | some nextReport =>
      beginTurn ⟨aggregator, c.runFor.bind now.later?, now, nextReport, none⟩ c b shutdown now
  | asleep m => if now < m.nextTick then (b, [], phase) else m.beginTurn c b shutdown now
  | updating m reason resume =>
    if reason.isOver b now then m.settle c now (resume b now) else (b, [], phase)
  | ended _ | broken _ => (b, [], phase)

end Monitor

end TopicHealth
