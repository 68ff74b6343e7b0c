import TopicHealth.Bus.Gate
import TopicHealth.Duration
import TopicHealth.IpAddress
import TopicHealth.Notice

/-!
# The bus

Publishers and readers inside one process. A channel is an endpoint at an address; publishers are at the default
address. Every reader has a queue of its own, into which a send copies its message; a conflating reader keeps
the newest only. A reader lives as long as one of its subscribers does. The channel of an endpoint has a flag that a
publisher sets when it is made and clears when it is dropped, and while it is set no other can be made.
-/

namespace TopicHealth

/-- The bytes of a message. -/
abbrev Message := List UInt8

/-- An endpoint at an address. -/
structure Channel where
  addr : IpAddress
  endpoint : String
deriving DecidableEq

/-- The address of publishers. -/
def localhost : IpAddress := .v4 127 0 0 1

/-- The channel that a publisher of an endpoint sends on. -/
def Channel.published (endpoint : String) : Channel := ⟨localhost, endpoint⟩

/-- A queue on a channel. -/
structure Reader where
  id : Nat
  channel : Channel
  /-- Only the newest message is kept. -/
  conflate : Bool
  /-- The messages that have not been received, the oldest first. -/
  queue : List Message
  /-- How many subscribers share the queue. -/
  clones : Nat
deriving DecidableEq

/-- Adds a message to a queue. -/
def Reader.deliver (r : Reader) (m : Message) : Reader :=
  { r with queue := if r.conflate then [m] else r.queue ++ [m] }

/-- The sending end of a channel. -/
structure Publisher where
  endpoint : String
deriving DecidableEq

/-- A receiving end of a channel; clones share the reader. -/
structure Subscriber where
  reader : Nat
  endpoint : String
  /-- How long a blocking receive waits; without end when there is none. -/
  timeout : Option Duration := none
deriving DecidableEq

/-- Everything that the publishers and subscribers of a process share. -/
structure Bus where
  readers : List Reader := []
  /-- The flag of the channel that the publishers of an endpoint send on: whether it is claimed. -/
  claimed : String → Bool := fun _ => false
  /-- The number for the next reader. -/
  serial : Nat := 0
  gates : Gates := {}
  /-- The signals that belong to no gate, in the order in which they were made. -/
  signals : List Bool := []

/-- Why an end of a channel could not be made. -/
inductive BusFault where
  | alreadyPublished (endpoint : String)
  | invalidAddress (addr : String)
deriving DecidableEq, Repr

def BusFault.message : BusFault → String
  | alreadyPublished endpoint => "endpoint '" ++ endpoint ++ "' already has a publisher"
  | invalidAddress addr => "invalid address '" ++ addr ++ "'"

/-- What an operation made of the bus, what it reported and how it ended. -/
structure Outcome (ε α : Type) where
  bus : Bus
  notices : List Notice
  result : Except ε α

namespace Bus

/-! ## Publishers -/

/-- Sets the flag of an endpoint or clears it. -/
def putClaim (b : Bus) (endpoint : String) (value : Bool) : Bus :=
  { b with claimed := fun e => if e = endpoint then value else b.claimed e }

/-- Sets the flag of an endpoint, and tells whether it was set before. -/
def claim (b : Bus) (endpoint : String) : Bool × Bus := (b.claimed endpoint, b.putClaim endpoint true)

/-- Makes the publisher of an endpoint, unless the flag was set before. -/
def openPublisher (b : Bus) (endpoint : String) : Outcome BusFault Publisher :=
  let (taken, b) := b.claim endpoint
  if taken then ⟨b, [], .error (.alreadyPublished endpoint)⟩
  else ⟨b, [.publisherOpened endpoint], .ok ⟨endpoint⟩⟩

/-- Drops a publisher: the flag of its endpoint is cleared. -/
def closePublisher (b : Bus) (p : Publisher) : Bus := b.putClaim p.endpoint false

/-- Sends a message to every reader of the publisher's channel. -/
def send (b : Bus) (p : Publisher) (m : Message) : Bus :=
  { b with readers := b.readers.map fun r => if r.channel = Channel.published p.endpoint then r.deliver m else r }

/-- Whether the publisher has readers and all of them have received everything. -/
def allReadersUpdated (b : Bus) (p : Publisher) : Bool :=
  let readers := b.readers.filter fun r => r.channel = Channel.published p.endpoint
  !readers.isEmpty && readers.all fun r => r.queue.isEmpty

/-! ## Subscribers -/

/-- The reader of a number. -/
def reader? (b : Bus) (id : Nat) : Option Reader := b.readers.find? fun r => r.id = id

/-- Changes a reader. -/
def modifyReader (b : Bus) (id : Nat) (f : Reader → Reader) : Bus :=
  { b with readers := b.readers.map fun r => if r.id = id then f r else r }

/-- Makes a subscriber with a reader of its own. -/
def subscribe (b : Bus) (endpoint addr : String) (conflate : Bool) : Outcome BusFault Subscriber :=
  match IpAddress.parse? addr with
  | none => ⟨b, [], .error (.invalidAddress addr)⟩
  | some ip =>
    let r : Reader := ⟨b.serial, ⟨ip, endpoint⟩, conflate, [], 1⟩
    ⟨{ b with readers := b.readers ++ [r], serial := b.serial + 1 },
      [.subscriberOpened endpoint ip.text conflate], .ok { reader := r.id, endpoint }⟩

/-- Counts one more subscriber on a reader. -/
def retain (b : Bus) (s : Subscriber) : Bus :=
  b.modifyReader s.reader fun r => { r with clones := r.clones + 1 }

/-- Counts one subscriber less on a reader, which goes with its last one. -/
def release (b : Bus) (s : Subscriber) : Bus :=
  let b := b.modifyReader s.reader fun r => { r with clones := r.clones - 1 }
  { b with readers := b.readers.filter fun r => r.id ≠ s.reader || 0 < r.clones }

/-- The messages that wait for a subscriber. -/
def queue (b : Bus) (s : Subscriber) : List Message := ((b.reader? s.reader).map Reader.queue).getD []

/-- How many messages wait for a subscriber. -/
def pending (b : Bus) (s : Subscriber) : Nat := (b.queue s).length

/-- Takes the oldest message that waits for a subscriber. -/
def take (b : Bus) (s : Subscriber) : Option Message × Bus :=
  ((b.queue s).head?, b.modifyReader s.reader fun r => { r with queue := r.queue.tail })

end Bus

end TopicHealth
