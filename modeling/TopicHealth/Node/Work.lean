import TopicHealth.Node.Basic
import TopicHealth.Node.Emitter
import TopicHealth.Node.Monitor

/-!
# Nodes at work

A node works by the turns of its monitor and its emitters, in any order and at any instants. The end of the
monitor shuts the emitters down, and the work is over when all have ended; a monitor that breaks down takes the node
with it. `Work.run` takes the turns as they fall due, on a clock that moves on by a fixed span with each.
-/

namespace TopicHealth.Node

/-- A node at work on its bus. -/
structure Work where
  config : Config
  bus : Bus
  /-- Everyone is told to end. -/
  shutdown : Bool
  monitor : Monitor.Phase
  emitters : List Emitter

/-- Whose turn it is. -/
inductive Actor where
  | monitor
  | emitter (index : Nat)
  /-- Someone outside the node, who shuts it down. -/
  | stopper
deriving DecidableEq, Repr

/-- The emitter of a feed, if the feed has a period and a publisher. -/
def emitter? (ps : PublisherSet) (f : Feed) : Option Emitter := do
  let period ← f.period?
  let publisher ← ps.publishers.lookup f.service
  return { feed := f, period, publisher }

/-- A node about to work. -/
def begin (n : Node) (b : Bus) (shutdown : Bool) : Work where
  config := n.config
  bus := b
  shutdown := shutdown
  monitor := .idle n.aggregator
  emitters := n.config.feeds.filterMap (emitter? n.publishers)

namespace Work

variable [Clock]

/-- The turn of an actor at an instant. -/
def step (w : Work) (actor : Actor) (now : Duration) : List Notice × Work :=
  match actor with
  | .stopper => ([], { w with shutdown := true })
  | .monitor =>
    let (bus, notices, monitor) := w.monitor.step w.config w.bus w.shutdown now
    let ended := match monitor with
      | .ended _ => true
      | _ => false
    (notices, { w with bus, monitor, shutdown := w.shutdown || ended })
  | .emitter index =>
    match w.emitters[index]? with
    | none => ([], w)
    | some e =>
      let (bus, notices, e) := e.step w.bus w.shutdown now
      (notices, { w with bus, emitters := w.emitters.set index e })

/-- A run of turns. -/
def steps (w : Work) : List (Actor × Duration) → List Notice × Work
  | [] => ([], w)
  | (actor, now) :: turns =>
    let (notices, w) := w.step actor now
    let (more, w) := w.steps turns
    (notices ++ more, w)

/-- How the work ended, once it has. -/
def result? (w : Work) : Option (Except Breakdown Report) :=
  match w.monitor with
  | .broken reason => some (.error reason)
  | .ended report => if w.emitters.all Emitter.isOver then some (.ok report) else none
  | .idle _ | .asleep _ | .updating .. => none

/-- What is told when the work is over. -/
def closingNotices (w : Work) (report : Report) : List Notice :=
  (w.emitters.filter fun e => e.phase = .broken).map (fun _ => .publisherBroken)
    ++ [.nodeStopped report.frame report.isHealthy]

/-- The earlier of two turns, the first of them if they are at one instant. -/
def earlier (a b : Option (Actor × Duration)) : Option (Actor × Duration) :=
  match a, b with
  | some (x, s), some (y, t) => if s ≤ t then some (x, s) else some (y, t)
  | a, none => a
  | none, b => b

/-- The turn that is due first among emitters that stand from an index on. -/
def nextEmitter? (now : Duration) : Nat → List Emitter → Option (Actor × Duration)
  | _, [] => none
  | index, e :: emitters =>
    earlier ((e.due? now).map fun t => (.emitter index, t)) (nextEmitter? now (index + 1) emitters)

/-- The turn that is due first. -/
def next? (w : Work) (now : Duration) : Option (Actor × Duration) :=
  earlier (nextEmitter? now 0 w.emitters) ((w.monitor.due? w.bus now).map fun t => (.monitor, t))

/-- Takes turns as they fall due, `fuel` of them at most, and moves the clock on by `latency` after each. No result
if the work is not over by then, or never will be. -/
def run (latency : Duration) : Nat → Duration → Work → List Notice × Option (Except Breakdown Report)
  | 0, _, _ => ([], none)
  | fuel + 1, now, w =>
    match w.result? with
    | some (.error reason) => ([], some (.error reason))
    | some (.ok report) => (w.closingNotices report, some (.ok report))
    | none =>
      match w.next? now with
      | none => ([], none)
      | some (actor, due) =>
        let now := if now < due then due else now
        let (notices, w) := w.step actor now
        let (more, result) := run latency fuel ((now.later? latency).getD now) w
        (notices ++ more, result)

end Work

end TopicHealth.Node
