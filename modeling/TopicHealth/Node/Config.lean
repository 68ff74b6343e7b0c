import TopicHealth.Node.Feed
import TopicHealth.Tracker.Config
import TopicHealth.Utf8
import TopicHealth.Yaml.Tree

/-!
# The configuration of a node

What a node tracks, how it keeps time and which feeds it runs. `ofBytes` reads a configuration file: the bytes
have to be a text, the text a document, the document a configuration, and the configuration a valid one.
-/

namespace TopicHealth.Node

/-- The settings of a node. -/
structure Config where
  tracker : Tracker.Config
  /-- The time from one update to the next. -/
  tick : Duration
  /-- How long an update waits for polled services. -/
  updateTimeout : Duration := .ofMillis 100
  /-- The time from one report to the next. -/
  reportInterval : Duration := .ofMillis 1000
  /-- How long the node runs; without end when there is none. -/
  runFor : Option Duration := none
  feeds : List Feed := []
deriving DecidableEq

/-- Why a configuration is not accepted. -/
inductive ConfigFault where
  | tracker (fault : Tracker.ConfigFault)
  | zeroTick
  | zeroReportInterval
  | badRateScale (index : Nat)
  | noPeriod (service : Service)
  | repeatedFeed (service : Service)
deriving DecidableEq, Repr

/-- The texts of a fault, the outermost first. -/
def ConfigFault.messages : ConfigFault → List String
  | tracker fault => ["Invalid submaster configuration", fault.message]
  | zeroTick => ["tick must be greater than zero"]
  | zeroReportInterval => ["report_interval must be greater than zero"]
  | badRateScale index => [s!"Publisher at index {index} has a non-positive rate_scale"]
  | noPeriod service =>
    ["Publisher '" ++ service.name ++ "' has no expected frequency; set an explicit period"]
  | repeatedFeed service => ["Duplicate publisher: " ++ service.name]

namespace Config

/-- What is wrong with the feed at an index, if anything is. -/
def feedFault? (index : Nat) (f : Feed) : Option ConfigFault :=
  if !(f.rateScale.isFinite && f.rateScale.isPositive) then some (.badRateScale index)
  else if f.period?.isNone then some (.noPeriod f.service)
  else none

/-- The first fault of some feeds, of which the first stands at the given index. -/
def feedsFault? : Nat → List Feed → Option ConfigFault
  | _, [] => none
  | index, f :: feeds => feedFault? index f <|> feedsFault? (index + 1) feeds

/-- Whether the configuration can be used, and otherwise the first reason why not. -/
def validate (c : Config) : Except ConfigFault Unit :=
  match c.tracker.validate with
  | .error fault => .error (.tracker fault)
  | .ok () =>
    if c.tick.isZero then .error .zeroTick
    else if c.reportInterval.isZero then .error .zeroReportInterval
    else match feedsFault? 0 c.feeds, Service.repeated? (c.feeds.map Feed.service) with
      | some fault, _ => .error fault
      | none, some s => .error (.repeatedFeed s)
      | none, none => .ok ()

/-! ## Reading -/

/-- The fields that have been read. -/
structure Fields where
  tracker : Option Tracker.Config := none
  tick : Option Duration := none
  updateTimeout : Option Duration := none
  reportInterval : Option Duration := none
  runFor : Option (Option Duration) := none
  feeds : Option (List Feed) := none

/-- Reads one field. -/
def Fields.read (f : Fields) (name : String) : Document.Decoder Fields := fun value => do
  let span := Document.duration
  match name with
  | "submaster" => return { f with tracker := ← Document.fill f.tracker Tracker.Config.ofDocument value }
  | "tick" => return { f with tick := ← Document.fill f.tick span value }
  | "update_timeout" => return { f with updateTimeout := ← Document.fill f.updateTimeout span value }
  | "report_interval" => return { f with reportInterval := ← Document.fill f.reportInterval span value }
  | "run_for" => return { f with runFor := ← Document.fill f.runFor (Document.option span) value }
  | "publishers" => return { f with feeds := ← Document.fill f.feeds (Document.list Feed.ofDocument) value }
  | _ => return f

/-- The names of the fields, in order. -/
def fieldNames : List String :=
  ["submaster", "tick", "update_timeout", "report_interval", "run_for", "publishers"]

/-- Reads a configuration, in which the services to track and the tick have to be given. -/
def ofDocument : Document.Decoder Config := fun d => do
  let f ← Document.record fieldNames Fields.read {} d
  return {
    tracker := ← Document.required f.tracker
    tick := ← Document.required f.tick
    updateTimeout := f.updateTimeout.getD (.ofMillis 100)
    reportInterval := f.reportInterval.getD (.ofMillis 1000)
    runFor := f.runFor.getD none
    feeds := f.feeds.getD [] }

/-- Why a configuration could not be had from a file. -/
inductive LoadFault where
  /-- There is no file, or it is not a text. -/
  | unreadable
  /-- The text is no configuration. -/
  | malformed
  /-- A duration is over the range by less than a second. -/
  | durationOverflow
  /-- The configuration is not accepted. -/
  | rejected (fault : ConfigFault)
deriving DecidableEq, Repr

/-- Reads a configuration from a text, without judging it. What stands before a fault of the text is read first. -/
def parse (text : String) : Except LoadFault Config :=
  let parsed := Yaml.parse text
  match ofDocument parsed.tree with
  | .error .mismatch => .error .malformed
  | .error .durationOverflow => .error .durationOverflow
  | .ok c => if parsed.whole then .ok c else .error .malformed

/-- Reads a configuration from the bytes of a file and judges it. -/
def ofBytes (bytes : List UInt8) : Except LoadFault Config := do
  let text ← (Utf8.decode bytes).mapError fun _ => .unreadable
  let c ← parse (String.ofList text)
  c.validate.mapError .rejected
  return c

end Config

end TopicHealth.Node
