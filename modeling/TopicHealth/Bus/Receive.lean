import TopicHealth.Bus.Call
import TopicHealth.Wire.Event

/-!
# Receiving

How a subscriber gets at its messages: one at a time, all that are there, or the newest only. Each receive first
passes the gate of its endpoint, if one bars it.
-/

namespace TopicHealth

namespace Subscriber

variable [Clock]

/-- Passes the gate of an endpoint: announces the receive, waits to be let through and closes the gate again. -/
def passGate (endpoint : String) : Operation Unit := do
  match ← Operation.look fun b => b.gates.barring? endpoint with
  | none => return
  | some gate =>
    Operation.report [.gateWaiting endpoint]
    Operation.change fun b => b.putSignal (.ofGate gate .called) true
    Operation.await (.signalled [.ofGate gate .ready] none)
    Operation.change fun b => b.putSignal (.ofGate gate .ready) false

/-- Takes the oldest message, if there is one. -/
def takeNow (s : Subscriber) : Operation (Option Message) := fun bus _ =>
  let (m, bus) := bus.take s
  .done bus [] m

/-- The deadline of a blocking receive. A timeout that ends beyond the clock breaks the call down. -/
def deadline (s : Subscriber) : Operation (Option Duration) := do
  match s.timeout with
  | none => return none
  | some timeout => match (← Operation.clock).later? timeout with
    | some t => return some t
    | none => Operation.fail .clockOverflow

/-- Takes the oldest message. A blocking receive waits for one as long as the subscriber's timeout allows. -/
def receive (s : Subscriber) (nonBlocking : Bool) : Operation (Option Message) := do
  passGate s.endpoint
  unless nonBlocking do
    Operation.await (.unread [s.reader] (← s.deadline))
  s.takeNow

/-- Decodes a message if there is one. -/
def decodeOne : Option Message → Except Wire.Fault (Option Event)
  | none => .ok none
  | some m => (Event.decode m).map some

/-! ## Loops

A loop over the messages of a subscriber goes on until a receive gives nothing, and nothing bounds it while others send
on. Here it is followed for a number of turns: one for each message that is there when it begins, one that finds none,
and some more for what comes while a receive is held up. A loop that has not ended by then goes on without end. -/

/-- How many turns more a loop is followed for. -/
def furtherTurns : Nat := 1000000

/-- For how many turns a loop is followed. -/
def turns (s : Subscriber) (further : Nat) : Operation Nat := Operation.look fun b => b.pending s + 1 + further

/-- Takes one message after another until there is none, and adds them to those that were taken before. Asked to, it
waits for the first one. -/
def drainFrom (s : Subscriber) (wait : Bool) : Nat → Array Message → Operation (List Message)
  | 0, taken => do
    Operation.endless
    return taken.toList
  | turns + 1, taken => do
    match ← s.receive (!(wait && taken.isEmpty)) with
    | none => return taken.toList
    | some m => s.drainFrom wait turns (taken.push m)

/-- Takes every message that is there, the oldest first. Asked to, it waits for the first one. -/
def drainRaw (s : Subscriber) (wait : Bool) (further : Nat := furtherTurns) : Operation (List Message) := do
  s.drainFrom wait (← s.turns further) #[]

/-- Takes every message that is there and decodes them; the first that does not decode decides. -/
def drain (s : Subscriber) (wait : Bool) (further : Nat := furtherTurns) :
    Operation (Except Wire.Fault (List Event)) := do
  return (← s.drainRaw wait further).mapM Event.decode

/-- Takes one message after another until there is none. Keeps the latest only, and counts those that it drops. -/
def newestFrom (s : Subscriber) (wait : Bool) : Nat → Option Message → Nat → Operation (Option Message × Nat)
  | 0, latest, dropped => do
    Operation.endless
    return (latest, dropped)
  | turns + 1, latest, dropped => do
    match ← s.receive (!(wait && latest.isNone)) with
    | none => return (latest, dropped)
    | some m => s.newestFrom wait turns (some m) (if latest.isSome then dropped + 1 else dropped)

/-- Takes every message that is there and decodes the newest. Asked to, it waits for the first one. -/
def newest (s : Subscriber) (wait : Bool) (further : Nat := furtherTurns) :
    Operation (Except Wire.Fault (Option Event)) := do
  let (latest, dropped) ← s.newestFrom wait (← s.turns further) none 0
  if 0 < dropped then Operation.report [.olderDropped s.endpoint dropped]
  return decodeOne latest

/-- Takes one message, waiting for it as long as the subscriber's timeout allows. -/
def receiveOne (s : Subscriber) : Operation (Except Wire.Fault (Option Event)) := do
  return decodeOne (← s.receive false)

/-- Takes one message if there is one. -/
def receiveOneOrNone (s : Subscriber) : Operation (Except Wire.Fault (Option Event)) := do
  return decodeOne (← s.receive true)

/-- Takes one message, trying again when the timeout has passed. -/
def retryFrom (s : Subscriber) : Nat → Operation (Except Wire.Fault (Option Event))
  | 0 => do
    Operation.endless
    return .ok none
  | turns + 1 => do
    match ← s.receive false with
    | some m => return decodeOne (some m)
    | none =>
      -- Turns that take no time would leave nobody the time to send.
      if s.timeout = some .zero then Operation.sleep .zero
      s.retryFrom turns

/-- Takes one message, waiting for it as long as it takes. -/
def receiveRetrying (s : Subscriber) (further : Nat := 0) : Operation (Except Wire.Fault (Option Event)) :=
  s.retryFrom (furtherTurns + further)

end Subscriber

end TopicHealth
