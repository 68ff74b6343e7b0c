import TopicHealth.Payload.Same

/-!
# Events

An event wraps a payload with the producer's time stamp and a validity flag. `Event.fresh` builds the event that
a producer starts from: a blank payload, stamped with the clock and not yet valid.
-/

namespace TopicHealth

/-- A payload with its producer's time stamp in nanoseconds and its validity flag. -/
structure Event where
  logMonoTime : UInt64
  valid : Bool
  payload : Payload
deriving DecidableEq, Inhabited

/-- Why a blank payload of a service could not be made. -/
inductive SizeFault where
  /-- A list payload was asked for without its length. -/
  | required (service : Service)
  /-- A length was given for a payload that is one record. -/
  | notApplicable (service : Service)
deriving DecidableEq, Repr

/-- The text of a size fault. -/
def SizeFault.message : SizeFault → String
  | .required service => "service '" ++ service.name ++ "' has a list payload and requires an explicit size"
  | .notApplicable service => "service '" ++ service.name ++ "' has a struct payload and does not take a size"

/-- A payload of defaults. A list payload needs its length and a single record takes none. -/
def Payload.init (service : Service) (size : Option Nat) : Except SizeFault Payload :=
  match service.isList, size with
  | true, none => .error (.required service)
  | false, some _ => .error (.notApplicable service)
  | _, size => .ok (Payload.blank service (size.getD 0))

namespace Event

/-- The service whose payload the event carries. -/
def service (e : Event) : Service := e.payload.service

/-- The event with another validity flag. -/
def withValid (e : Event) (valid : Bool) : Event := { e with valid }

/-- The event with another time stamp. -/
def withLogMonoTime (e : Event) (logMonoTime : UInt64) : Event := { e with logMonoTime }

/-- The event with another payload. -/
def withPayload (e : Event) (payload : Payload) : Event := { e with payload }

/-- A new event for a service: not valid, stamped with the clock's reading. -/
def fresh (now : Duration) (service : Service) (size : Option Nat) : Except SizeFault Event :=
  (Payload.init service size).map fun payload => ⟨now.toWord, false, payload⟩

/-- Equality of events, with floating-point fields compared as numbers. -/
def same (a b : Event) : Bool :=
  a.logMonoTime = b.logMonoTime && a.valid = b.valid && a.payload.same b.payload

end Event

end TopicHealth
