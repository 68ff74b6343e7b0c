import TopicHealth.Document

/-!
# What to track

The configuration of a tracker: the services, which of them are polled, and which are exempt from a check.
`validate` accepts a configuration that names at least one service and an address and repeats no service.
-/

namespace TopicHealth

/-- The address that is used when none is given; publishers are always found there. -/
def defaultAddr : String := "127.0.0.1"

/-- The least service that a list holds more than once, wherever its copies stand. -/
def Service.repeated? (services : List Service) : Option Service :=
  adjacent? (services.mergeSort fun s t => s ≤ t)
where
  /-- The first member that is equal to the next one. -/
  adjacent? : List Service → Option Service
    | s :: t :: rest => if s = t then some s else adjacent? (t :: rest)
    | _ => none

namespace Tracker

/-- The services to track and how to check them. -/
structure Config where
  services : List Service
  /-- The services that are waited for; all of them when there is no list or an empty one. -/
  poll : Option (List Service) := none
  /-- The services exempt from the liveness check. -/
  ignoreAlive : List Service := []
  /-- The services exempt from the rate check. -/
  ignoreAvgFreq : List Service := []
  /-- The services exempt from the validity check. -/
  ignoreValid : List Service := []
  /-- The address that subscribers connect to. -/
  addr : String := defaultAddr
  /-- There is no real timing: every service is exempt from the liveness and rate checks. -/
  simulation : Bool := false
deriving DecidableEq

/-- Why a configuration is not accepted. -/
inductive ConfigFault where
  | noServices
  | emptyAddr
  | repeatedService (service : Service)
deriving DecidableEq, Repr

def ConfigFault.message : ConfigFault → String
  | noServices => "At least one service is required"
  | emptyAddr => "addr cannot be empty"
  | repeatedService service => "Duplicate service: " ++ service.name

namespace Config

/-- Whether the configuration can be used, and otherwise the first reason why not. -/
def validate (c : Config) : Except ConfigFault Unit :=
  if c.services.isEmpty then .error .noServices
  else if c.addr.isEmpty then .error .emptyAddr
  else match Service.repeated? c.services with
    | some s => .error (.repeatedService s)
    | none => .ok ()

/-- Whether a service is read directly at each tick and never waited for. -/
def isNonPolled (c : Config) (s : Service) : Bool :=
  match c.poll with
  | some poll => !poll.isEmpty && !poll.contains s
  | none => false

/-- The polled services that are not tracked, in the order of the poll list. -/
def untrackedPolled (c : Config) : List Service :=
  (c.poll.getD []).filter fun s => !c.services.contains s

/-! ## Reading -/

/-- The fields that have been read. -/
structure Fields where
  services : Option (List Service) := none
  poll : Option (Option (List Service)) := none
  ignoreAlive : Option (List Service) := none
  ignoreAvgFreq : Option (List Service) := none
  ignoreValid : Option (List Service) := none
  addr : Option String := none
  simulation : Option Bool := none

/-- Reads one field. -/
def Fields.read (f : Fields) (name : String) : Document.Decoder Fields := fun value => do
  let services := Document.list Document.service
  match name with
  | "services" => return { f with services := ← Document.fill f.services services value }
  | "poll" => return { f with poll := ← Document.fill f.poll (Document.option services) value }
  | "ignore_alive" => return { f with ignoreAlive := ← Document.fill f.ignoreAlive services value }
  | "ignore_avg_freq" => return { f with ignoreAvgFreq := ← Document.fill f.ignoreAvgFreq services value }
  | "ignore_valid" => return { f with ignoreValid := ← Document.fill f.ignoreValid services value }
  | "addr" => return { f with addr := ← Document.fill f.addr Document.string value }
  | "simulation" => return { f with simulation := ← Document.fill f.simulation Document.bool value }
  | _ => return f

/-- The names of the fields, in order. -/
def fieldNames : List String :=
  ["services", "poll", "ignore_alive", "ignore_avg_freq", "ignore_valid", "addr", "simulation"]

/-- Reads a configuration, in which only the services have to be given. -/
def ofDocument : Document.Decoder Config := fun d => do
  let f ← Document.record fieldNames Fields.read {} d
  return {
    services := ← Document.required f.services
    poll := f.poll.getD none
    ignoreAlive := f.ignoreAlive.getD []
    ignoreAvgFreq := f.ignoreAvgFreq.getD []
    ignoreValid := f.ignoreValid.getD []
    addr := f.addr.getD defaultAddr
    simulation := f.simulation.getD false }

end Config

/-! ## Policies -/

/-- Which services are exempt from what, with the simulation mode worked in. -/
structure Policy where
  nonPolled : List Service
  ignoreAlive : List Service
  ignoreAvgFreq : List Service
  ignoreValid : List Service
deriving DecidableEq

/-- The policy of a configuration. -/
def Config.policy (c : Config) : Policy where
  nonPolled := c.services.filter c.isNonPolled
  ignoreAlive := if c.simulation then c.services else c.ignoreAlive
  ignoreAvgFreq := if c.simulation then c.services else c.ignoreAvgFreq
  ignoreValid := c.ignoreValid

end Tracker

end TopicHealth
