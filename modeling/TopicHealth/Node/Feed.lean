import TopicHealth.Document
import TopicHealth.Service.Rate

/-!
# Feeds

A feed describes a synthetic publisher: its service, how often and how long it sends, and whether its messages
are valid. Its period is given, or follows from a multiple of the nominal rate of the service.
-/

namespace TopicHealth

/-- A synthetic publisher of one service. -/
structure Feed where
  service : Service
  /-- The multiple of the nominal rate to publish at. -/
  rateScale : Binary64 := .one
  /-- A period to publish at whatever the rate. -/
  explicitPeriod : Option Duration := none
  /-- The validity flag of every message. -/
  valid : Bool := true
  /-- How long the feed lasts; to the end of the run when there is none. -/
  stopAfter : Option Duration := none
deriving DecidableEq

namespace Feed

/-- The period of a multiple of a service's nominal rate; none without a rate or when no duration holds it. -/
def scaledPeriod? (s : Service) (rateScale : Binary64) : Option Duration :=
  if s.hasRate then (.one / (s.rate * rateScale) : Binary64).toDuration? else none

/-- The time between two messages. An explicit period decides, and an empty one is none. -/
def period? (f : Feed) : Option Duration :=
  match f.explicitPeriod with
  | some period => if period.isZero then none else some period
  | none => scaledPeriod? f.service f.rateScale

/-! ## Reading -/

/-- The fields that have been read. -/
structure Fields where
  service : Option Service := none
  rateScale : Option Binary64 := none
  explicitPeriod : Option (Option Duration) := none
  valid : Option Bool := none
  stopAfter : Option (Option Duration) := none

/-- Reads one field. -/
def Fields.read (f : Fields) (name : String) : Document.Decoder Fields := fun value => do
  let span := Document.option Document.duration
  match name with
  | "service" => return { f with service := ← Document.fill f.service Document.service value }
  | "rate_scale" => return { f with rateScale := ← Document.fill f.rateScale Document.float value }
  | "period" => return { f with explicitPeriod := ← Document.fill f.explicitPeriod span value }
  | "valid" => return { f with valid := ← Document.fill f.valid Document.bool value }
  | "stop_after" => return { f with stopAfter := ← Document.fill f.stopAfter span value }
  | _ => return f

/-- The names of the fields, in order. -/
def fieldNames : List String := ["service", "rate_scale", "period", "valid", "stop_after"]

/-- Reads a feed, of which only the service has to be given. -/
def ofDocument : Document.Decoder Feed := fun d => do
  let f ← Document.record fieldNames Fields.read {} d
  return {
    service := ← Document.required f.service
    rateScale := f.rateScale.getD .one
    explicitPeriod := f.explicitPeriod.getD none
    valid := f.valid.getD true
    stopAfter := f.stopAfter.getD none }

end Feed

end TopicHealth
