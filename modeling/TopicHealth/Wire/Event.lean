import TopicHealth.Event
import TopicHealth.Wire.Codec

/-!
# The wire form of events

An event is its time stamp, its flag, the tag of its service and the payload's fields in order. Reading takes a
whole event and nothing after it.
-/

namespace TopicHealth

namespace Wire.Codec

def cruiseState : Codec CruiseState :=
  (both flag (both flag single)).via (fun (a, b, c) => ⟨a, b, c⟩) fun r => (r.enabled, r.available, r.speed)

def carState : Codec CarState :=
  (both single (both single (both single (both flag (both flag cruiseState))))).via
    (fun (a, b, c, d, e, f) => ⟨a, b, c, d, e, f⟩)
    fun r => (r.vEgo, r.aEgo, r.steeringAngleDeg, r.gasPressed, r.brakePressed, r.cruise)

def controlsState : Codec ControlsState :=
  (both flag (both flag (both single single))).via (fun (a, b, c, d) => ⟨a, b, c, d⟩)
    fun r => (r.enabled, r.active, r.curvature, r.cumLagMs)

def xyztData : Codec XyztData :=
  (both (list single) (both (list single) (both (list single) (list single)))).via
    (fun (a, b, c, d) => ⟨a, b, c, d⟩) fun r => (r.x, r.y, r.z, r.t)

def disengagePrediction : Codec DisengagePrediction :=
  (both (list single) (both (list single) (list single))).via (fun (a, b, c) => ⟨a, b, c⟩)
    fun r => (r.t, r.brakeDisengageProbs, r.steerOverrideProbs)

def modelMeta : Codec ModelMeta :=
  (both single (list disengagePrediction)).via (fun (a, b) => ⟨a, b⟩)
    fun r => (r.engagedProb, r.disengagePredictions)

def modelV2 : Codec ModelV2 :=
  (both word (both xyztData (both xyztData (both (list xyztData) (both (list single) modelMeta))))).via
    (fun (a, b, c, d, e, f) => ⟨a, b, c, d, e, f⟩)
    fun r => (r.frameId, r.position, r.velocity, r.laneLines, r.laneLineProbs, r.info)

def leadData : Codec LeadData :=
  (both flag (both single single)).via (fun (a, b, c) => ⟨a, b, c⟩) fun r => (r.status, r.dRel, r.vRel)

def radarState : Codec RadarState :=
  (both leadData leadData).via (fun (a, b) => ⟨a, b⟩) fun r => (r.leadOne, r.leadTwo)

def deviceState : Codec DeviceState :=
  (both single (both signedByte (both (list single) flag))).via (fun (a, b, c, d) => ⟨a, b, c, d⟩)
    fun r => (r.freeSpacePercent, r.memoryUsagePercent, r.cpuTempC, r.started)

def pandaState : Codec PandaState :=
  (both flag (both flag (both word word))).via (fun (a, b, c, d) => ⟨a, b, c, d⟩)
    fun r => (r.ignitionLine, r.controlsAllowed, r.rxBufferOverflow, r.txBufferOverflow)

def liveCalibration : Codec LiveCalibration :=
  (both signedByte (both signedByte (list single))).via (fun (a, b, c) => ⟨a, b, c⟩)
    fun r => (r.calStatus, r.calPerc, r.rpyCalib)

def carParams : Codec CarParams :=
  (both text (both single (both single single))).via (fun (a, b, c, d) => ⟨a, b, c, d⟩)
    fun r => (r.carFingerprint, r.mass, r.wheelbase, r.steerRatio)

def gpsLocation : Codec GpsLocation :=
  (both double (both double (both double (both single flag)))).via (fun (a, b, c, d, e) => ⟨a, b, c, d, e⟩)
    fun r => (r.latitude, r.longitude, r.altitude, r.speed, r.hasFix)

def canFrame : Codec CanFrame :=
  (both word (both byte (list byte))).via (fun (a, b, c) => ⟨a, b, c⟩) fun r => (r.address, r.src, r.dat)

def onroadEvent : Codec OnroadEvent :=
  (both text (both flag (both flag flag))).via (fun (a, b, c, d) => ⟨a, b, c, d⟩)
    fun r => (r.name, r.enable, r.noEntry, r.warning)

end Wire.Codec

namespace Payload

open Wire

/-- The fields of a payload. -/
def writeBody : Payload → List UInt8
  | carState r => Codec.carState.write r
  | controlsState r => Codec.controlsState.write r
  | modelV2 r => Codec.modelV2.write r
  | radarState r => Codec.radarState.write r
  | deviceState r => Codec.deviceState.write r
  | pandaStates rs => (Codec.list Codec.pandaState).write rs
  | liveCalibration r => Codec.liveCalibration.write r
  | carParams r => Codec.carParams.write r
  | gpsLocation r => Codec.gpsLocation.write r
  | sendcan rs => (Codec.list Codec.canFrame).write rs
  | onroadEvents rs => (Codec.list Codec.onroadEvent).write rs
  | userFlag => []

/-- Takes the fields of a payload of the given service. -/
def readBody : Service → Decoder Payload
  | .carState => carState <$> Codec.carState.read
  | .controlsState => controlsState <$> Codec.controlsState.read
  | .modelV2 => modelV2 <$> Codec.modelV2.read
  | .radarState => radarState <$> Codec.radarState.read
  | .deviceState => deviceState <$> Codec.deviceState.read
  | .pandaStates => pandaStates <$> (Codec.list Codec.pandaState).read
  | .liveCalibration => liveCalibration <$> Codec.liveCalibration.read
  | .carParams => carParams <$> Codec.carParams.read
  | .gpsLocation => gpsLocation <$> Codec.gpsLocation.read
  | .sendcan => sendcan <$> (Codec.list Codec.canFrame).read
  | .onroadEvents => onroadEvents <$> (Codec.list Codec.onroadEvent).read
  | .userFlag => pure userFlag

/-- A payload as the tag of its service, which is the service's index, and its fields. -/
def codec : Codec Payload where
  write p := writeVarint p.service.index ++ p.writeBody
  read := do
    let tag ← readWord
    match Service.all[tag]? with
    | some service => readBody service
    | none => throw (.unknownTag tag)

end Payload

namespace Event

open Wire

/-- An event as its time stamp, its flag and its payload. -/
def codec : Codec Event :=
  (Codec.both Codec.long (Codec.both Codec.flag Payload.codec)).via (fun (a, b, c) => ⟨a, b, c⟩)
    fun e => (e.logMonoTime, e.valid, e.payload)

/-- The wire form of an event. -/
def encode (e : Event) : List UInt8 := codec.write e

/-- The event that the bytes are a wire form of. -/
def decode (bytes : List UInt8) : Except Fault Event :=
  match codec.read bytes with
  | .ok (e, []) => .ok e
  | .ok (_, _ :: _) => .error .trailingBytes
  | .error fault => .error fault

end Event

end TopicHealth
