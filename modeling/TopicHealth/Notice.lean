import TopicHealth.Duration.Display
import TopicHealth.Service

/-!
# Notices

What the library reports while it works. A notice has a level, a message, fields and the component it comes from;
`Notice.line` writes it as a line of the log.
-/

namespace TopicHealth

/-- How much a notice matters. -/
inductive Level where
  | trace
  | debug
  | info
  | warn
  | error
deriving DecidableEq, Repr

namespace Level

def name : Level → String
  | trace => "TRACE"
  | debug => "DEBUG"
  | info => "INFO"
  | warn => "WARN"
  | error => "ERROR"

/-- The place among the levels, from the least to the most important. -/
def rank : Level → Nat
  | trace => 0
  | debug => 1
  | info => 2
  | warn => 3
  | error => 4

end Level

/-- A report of something that happened. -/
inductive Notice where
  | publisherOpened (endpoint : String)
  | subscriberOpened (endpoint addr : String) (conflate : Bool)
  | olderDropped (endpoint : String) (count : Nat)
  | gateWaiting (endpoint : String)
  | readersBehind (service : Service) (timeout : Duration)
  | publishersReady (count : Nat)
  | polledNotTracked (service : Service)
  | emptyPlaceholder (service : Service)
  | aggregatorReady (services polled : Nat) (simulation : Bool) (addr : String)
  | undecodable (endpoint fault : String)
  | untrackedMessage (service : Service) (frame : Int)
  | notAlive (service : Service) (frame : Int)
  | alive (service : Service) (frame : Int)
  | belowRate (service : Service) (frame : Int)
  | rateRecovered (service : Service) (frame : Int)
  | checkedNotTracked (service : Service)
  | nodeCreating (services publishers : Nat) (tick updateTimeout : Duration) (simulation : Bool)
  | unmonitoredPublisher (service : Service)
  | publisherStarted (service : Service) (period : Duration) (valid : Bool)
  | publisherExpired (service : Service) (sent : Nat)
  | publisherStopped (service : Service) (sent : Nat)
  | publisherBroken
  | shutdownRequested
  /-- All services are healthy; `first` after a report that found them otherwise, or none. -/
  | allHealthy (first : Bool) (frame : Int)
  | unhealthy (frame : Int) (failing : String)
  | nodeStopped (frame : Int) (healthy : Bool)
  | configLoading (file : String)
  | configLoaded (services publishers : Nat) (tick : Duration) (runFor : Option Duration) (simulation : Bool)
  | programEnding (frame : Int) (healthy : Bool)
deriving DecidableEq

namespace Notice

def level : Notice → Level
  | publisherOpened _ | subscriberOpened .. | olderDropped .. | readersBehind .. | emptyPlaceholder _ | alive ..
  | rateRecovered .. | checkedNotTracked _ | publisherStarted .. | publisherStopped .. | shutdownRequested => .debug
  | gateWaiting _ => .trace
  | publishersReady _ | aggregatorReady .. | nodeCreating .. | publisherExpired .. | nodeStopped ..
  | configLoading _ | configLoaded .. | programEnding .. => .info
  | polledNotTracked _ | undecodable .. | untrackedMessage .. | notAlive .. | belowRate ..
  | unmonitoredPublisher _ | unhealthy .. => .warn
  | publisherBroken => .error
  | allHealthy first _ => if first then .info else .debug

def message : Notice → String
  | publisherOpened _ => "Created publisher socket"
  | subscriberOpened .. => "Created subscriber socket"
  | olderDropped .. => "Dropped older messages"
  | gateWaiting _ => "Gated receive waiting for release"
  | readersBehind .. => "Readers did not catch up in time"
  | publishersReady _ => "PubMaster ready"
  | polledNotTracked _ => "Polled service is not tracked and will be ignored"
  | emptyPlaceholder _ => "Using an empty list as placeholder"
  | aggregatorReady .. => "SubMaster ready"
  | undecodable .. => "Dropping undecodable message"
  | untrackedMessage .. => "Dropping message for untracked service"
  | notAlive .. => "Service is no longer alive"
  | alive .. => "Service is alive"
  | belowRate .. => "Service is below its expected rate"
  | rateRecovered .. => "Service rate recovered"
  | checkedNotTracked _ => "Checked service is not tracked"
  | nodeCreating .. => "Creating MonitorNode"
  | unmonitoredPublisher _ => "Publisher targets an unmonitored service"
  | publisherStarted .. => "Publisher started"
  | publisherExpired .. => "Publisher reached stop_after"
  | publisherStopped .. => "Publisher stopped"
  | publisherBroken => "Publisher thread panicked"
  | shutdownRequested => "Shutdown requested"
  | allHealthy .. => "All services healthy"
  | unhealthy .. => "Services unhealthy"
  | nodeStopped .. => "MonitorNode stopped"
  | configLoading _ => "Loading configuration"
  | configLoaded .. => "Configuration loaded"
  | programEnding .. => "cadence node shutting down"

/-- The named values of a notice, in the order in which they are written. -/
def fields : Notice → List (String × String)
  | publisherOpened endpoint | gateWaiting endpoint => [("endpoint", endpoint)]
  | subscriberOpened endpoint addr conflate =>
    [("endpoint", endpoint), ("addr", addr), ("conflate", toString conflate)]
  | olderDropped endpoint count => [("endpoint", endpoint), ("dropped", toString count)]
  | readersBehind service timeout => [("service", service.name), ("timeout", timeout.display)]
  | publishersReady count => [("services", toString count)]
  | polledNotTracked service | emptyPlaceholder service | checkedNotTracked service
  | unmonitoredPublisher service => [("service", service.name)]
  | aggregatorReady services polled simulation addr =>
    [("services", toString services), ("polled", toString polled), ("simulation", toString simulation), ("addr", addr)]
  | undecodable endpoint fault => [("endpoint", endpoint), ("error", fault)]
  | untrackedMessage service frame | notAlive service frame | alive service frame
  | rateRecovered service frame => [("service", service.name), ("frame", toString frame)]
  | belowRate service frame =>
    [("service", service.name), ("frame", toString frame), ("expected_hz", service.rateText)]
  | nodeCreating services publishers tick updateTimeout simulation =>
    [("services", toString services), ("publishers", toString publishers), ("tick", tick.display),
      ("update_timeout", updateTimeout.display), ("simulation", toString simulation)]
  | publisherStarted service period valid =>
    [("service", service.name), ("period", period.display), ("valid", toString valid)]
  | publisherExpired service sent | publisherStopped service sent =>
    [("service", service.name), ("sent", toString sent)]
  | publisherBroken | shutdownRequested => []
  | allHealthy _ frame => [("frame", toString frame)]
  | unhealthy frame failing => [("frame", toString frame), ("failing", failing)]
  | nodeStopped frame healthy | programEnding frame healthy =>
    [("frame", toString frame), ("healthy", toString healthy)]
  | configLoading file => [("config_file", file)]
  | configLoaded services publishers tick runFor simulation =>
    [("services", toString services), ("publishers", toString publishers), ("tick", tick.display),
      ("run_for", match runFor with
        | some d => "Some(" ++ d.display ++ ")"
        | none => "None"),
      ("simulation", toString simulation)]

/-- The component that a notice comes from: the program, its monitor, or the bus and what reads it. -/
def target : Notice → String
  | configLoading _ | configLoaded .. | programEnding .. => "cadence_node"
  | nodeCreating .. | unmonitoredPublisher _ | publisherStarted .. | publisherExpired .. | publisherStopped ..
  | publisherBroken | shutdownRequested | allHealthy .. | unhealthy .. | nodeStopped .. => "cadence_node::node"
  | _ => "cadence_core"

/-- A notice as a line: its level, its message and its fields. -/
def line (n : Notice) : String :=
  " ".intercalate (n.level.name :: n.message :: n.fields.map fun (name, value) => name ++ "=" ++ value)

end Notice

end TopicHealth
