import TopicHealth.Bus.Poller
import TopicHealth.Bus.Receive
import TopicHealth.Tracker.Basic

/-!
# Aggregators

An aggregator feeds a tracker from the bus. It keeps one conflating subscriber for each tracked service, waits on
the polled ones, and makes a tick of what is there. Opening one either succeeds for every service or leaves no
subscriber behind.
-/

namespace TopicHealth

/-- A tracker and the subscribers it is fed from. -/
structure Aggregator where
  tracker : Tracker
  subscribers : List (Service × Subscriber)
  poller : Poller

namespace Aggregator

variable [Clock]

/-- Why an aggregator could not be opened. -/
inductive OpenFault where
  | config (fault : Tracker.ConfigFault)
  | subscription (service : Service) (fault : BusFault)
deriving DecidableEq, Repr

/-- The texts of a fault, the outermost first. -/
def OpenFault.messages : OpenFault → List String
  | config fault => [fault.message]
  | subscription service fault => ["Failed to subscribe to '" ++ service.name ++ "'", fault.message]

/-- The notice about a list service, which has an empty list before its first message. -/
def placeholderNotice (s : Service) : List Notice :=
  if s.isList then [.emptyPlaceholder s] else []

/-- Makes the subscribers of some services and registers the polled ones. If one cannot be made, those before it
are dropped again. -/
def connect (addr : String) (nonPolled : List Service) :
    List Service → Bus → Outcome OpenFault (List (Service × Subscriber) × Poller)
  | [], b => ⟨b, [], .ok ([], {})⟩
  | s :: services, b =>
    match b.subscribe s.name addr true with
    | ⟨b, notices, .error fault⟩ => ⟨b, notices, .error (.subscription s fault)⟩
    | ⟨b, notices, .ok sub⟩ =>
      let isPolled := !nonPolled.contains s
      let b := if isPolled then b.retain sub else b
      match connect addr nonPolled services b with
      | ⟨b, more, .ok (subs, poller)⟩ =>
        ⟨b, notices ++ placeholderNotice s ++ more,
          .ok ((s, sub) :: subs, if isPolled then ⟨sub :: poller.subscribers⟩ else poller)⟩
      | ⟨b, more, .error fault⟩ =>
        let b := b.release sub
        ⟨if isPolled then b.release sub else b, notices ++ placeholderNotice s ++ more, .error fault⟩

/-- Opens an aggregator. -/
def «open» (b : Bus) (c : Tracker.Config) : Outcome OpenFault Aggregator :=
  match c.validate with
  | .error fault => ⟨b, [], .error (.config fault)⟩
  | .ok () =>
    let unknown := c.untrackedPolled.map Notice.polledNotTracked
    match connect c.addr c.policy.nonPolled c.services b with
    | ⟨b, notices, .error fault⟩ => ⟨b, unknown ++ notices, .error fault⟩
    | ⟨b, notices, .ok (subscribers, poller)⟩ =>
      let ready := .aggregatorReady c.services.length poller.subscribers.length c.simulation c.addr
      ⟨b, unknown ++ notices ++ [ready], .ok ⟨Tracker.ofConfig c, subscribers, poller⟩⟩

/-- Drops an aggregator and its subscribers. -/
def close (a : Aggregator) (b : Bus) : Bus :=
  (a.subscribers.map (·.2)).foldl Bus.release (a.poller.close b)

/-- Takes one message if there is one; one that does not decode is reported and passed over. -/
def receive (s : Subscriber) : Operation (Option Event) := do
  match ← s.receiveOneOrNone with
  | .ok e => return e
  | .error fault =>
    Operation.report [.undecodable s.endpoint fault.message]
    return none

/-- The subscribers of the services that are not polled. -/
def nonPolled (a : Aggregator) : List Subscriber :=
  a.tracker.policy.nonPolled.filterMap fun s => a.subscribers.lookup s

/-- Receives from some subscribers in order. -/
def receiveAll : List Subscriber → Operation (List (Option Event))
  | [] => return []
  | s :: rest => return (← receive s) :: (← receiveAll rest)

/-- One tick of the tracker, on its own batch. -/
def tick (a : Aggregator) (batch : List (Option Event)) : Operation Aggregator := fun bus now =>
  match a.tracker.tick now batch with
  | (notices, .ok tracker) => .done bus notices { a with tracker }
  | (notices, .error .overflow) => .broken bus notices .meanOverflow

/-- One tick from the bus: waits for a polled service, receives from those that are ready and then from those
that are not polled, and takes what came as a batch. -/
def update (a : Aggregator) (timeout : Duration) : Operation Aggregator := do
  let ready ← a.poller.poll timeout
  a.tick (← receiveAll (ready ++ a.nonPolled))

end Aggregator

end TopicHealth
