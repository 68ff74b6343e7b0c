import TopicHealth.Aggregator
import TopicHealth.Node.Config
import TopicHealth.PublisherSet

/-!
# Nodes

A node is an aggregator with the publishers of its feeds on the same bus. The subscribers are made before the
publishers, so that no message is missed. Opening a node either succeeds or leaves nothing behind on the bus.
-/

namespace TopicHealth

/-- A configured aggregator and publishers. -/
structure Node where
  config : Node.Config
  aggregator : Aggregator
  publishers : PublisherSet

namespace Node

/-- Why a node could not be opened. -/
inductive OpenFault where
  | config (fault : ConfigFault)
  | aggregator (fault : Aggregator.OpenFault)
  | publishers (fault : PublisherSet.OpenFault)
deriving DecidableEq, Repr

/-- The texts of a fault, the outermost first. -/
def OpenFault.messages : OpenFault → List String
  | config fault => fault.messages
  | aggregator fault => fault.messages
  | publishers fault => fault.messages

/-- What is told when a node is about to be opened, feeds of services that it does not track among it. -/
def creationNotices (c : Config) : List Notice :=
  .nodeCreating c.tracker.services.length c.feeds.length c.tick c.updateTimeout c.tracker.simulation
    :: ((c.feeds.map Feed.service).filter fun s => !c.tracker.services.contains s).map .unmonitoredPublisher

/-- Opens a node. -/
def «open» (b : Bus) (c : Config) : Outcome OpenFault Node :=
  match c.validate with
  | .error fault => ⟨b, [], .error (.config fault)⟩
  | .ok () =>
    match Aggregator.open b c.tracker with
    | ⟨b, notices, .error fault⟩ => ⟨b, creationNotices c ++ notices, .error (.aggregator fault)⟩
    | ⟨b, notices, .ok aggregator⟩ =>
      match PublisherSet.open b (c.feeds.map Feed.service) with
      | ⟨b, more, .error fault⟩ =>
        ⟨aggregator.close b, creationNotices c ++ notices ++ more, .error (.publishers fault)⟩
      | ⟨b, more, .ok publishers⟩ => ⟨b, creationNotices c ++ notices ++ more, .ok ⟨c, aggregator, publishers⟩⟩

/-- Drops a node with its subscribers and publishers. -/
def close (n : Node) (b : Bus) : Bus := n.publishers.close (n.aggregator.close b)

end Node

end TopicHealth
