import TopicHealth.Payload

/-!
# Numeric equality of payloads

Two payloads are the same when they have the same shape and their fields are equal, floating-point fields as
numbers: the two zeros are the same and what is not a number is the same as nothing, itself included.
`Payload.numbers` lists the floating-point fields of a payload.
-/

namespace TopicHealth

/-- Two lists of one length whose members agree place by place. -/
def sameList {α : Type} (same : α → α → Bool) : List α → List α → Bool
  | [], [] => true
  | a :: as, b :: bs => same a b && sameList same as bs
  | _, _ => false

def CruiseState.same (a b : CruiseState) : Bool :=
  a.enabled = b.enabled && a.available = b.available && a.speed.same b.speed

def CarState.same (a b : CarState) : Bool :=
  a.vEgo.same b.vEgo && a.aEgo.same b.aEgo && a.steeringAngleDeg.same b.steeringAngleDeg
    && a.gasPressed = b.gasPressed && a.brakePressed = b.brakePressed && a.cruise.same b.cruise

def ControlsState.same (a b : ControlsState) : Bool :=
  a.enabled = b.enabled && a.active = b.active && a.curvature.same b.curvature && a.cumLagMs.same b.cumLagMs

def XyztData.same (a b : XyztData) : Bool :=
  sameList Binary32.same a.x b.x && sameList Binary32.same a.y b.y && sameList Binary32.same a.z b.z
    && sameList Binary32.same a.t b.t

def DisengagePrediction.same (a b : DisengagePrediction) : Bool :=
  sameList Binary32.same a.t b.t && sameList Binary32.same a.brakeDisengageProbs b.brakeDisengageProbs
    && sameList Binary32.same a.steerOverrideProbs b.steerOverrideProbs

def ModelMeta.same (a b : ModelMeta) : Bool :=
  a.engagedProb.same b.engagedProb
    && sameList DisengagePrediction.same a.disengagePredictions b.disengagePredictions

def ModelV2.same (a b : ModelV2) : Bool :=
  a.frameId = b.frameId && a.position.same b.position && a.velocity.same b.velocity
    && sameList XyztData.same a.laneLines b.laneLines && sameList Binary32.same a.laneLineProbs b.laneLineProbs
    && a.info.same b.info

def LeadData.same (a b : LeadData) : Bool :=
  a.status = b.status && a.dRel.same b.dRel && a.vRel.same b.vRel

def RadarState.same (a b : RadarState) : Bool :=
  a.leadOne.same b.leadOne && a.leadTwo.same b.leadTwo

def DeviceState.same (a b : DeviceState) : Bool :=
  a.freeSpacePercent.same b.freeSpacePercent && a.memoryUsagePercent = b.memoryUsagePercent
    && sameList Binary32.same a.cpuTempC b.cpuTempC && a.started = b.started

def LiveCalibration.same (a b : LiveCalibration) : Bool :=
  a.calStatus = b.calStatus && a.calPerc = b.calPerc && sameList Binary32.same a.rpyCalib b.rpyCalib

def CarParams.same (a b : CarParams) : Bool :=
  a.carFingerprint = b.carFingerprint && a.mass.same b.mass && a.wheelbase.same b.wheelbase
    && a.steerRatio.same b.steerRatio

def GpsLocation.same (a b : GpsLocation) : Bool :=
  a.latitude.same b.latitude && a.longitude.same b.longitude && a.altitude.same b.altitude
    && a.speed.same b.speed && a.hasFix = b.hasFix

namespace Payload

/-- Whether two payloads belong to one service and are numerically equal. -/
def same : Payload → Payload → Bool
  | carState a, carState b => a.same b
  | controlsState a, controlsState b => a.same b
  | modelV2 a, modelV2 b => a.same b
  | radarState a, radarState b => a.same b
  | deviceState a, deviceState b => a.same b
  | pandaStates as, pandaStates bs => as = bs
  | liveCalibration a, liveCalibration b => a.same b
  | carParams a, carParams b => a.same b
  | gpsLocation a, gpsLocation b => a.same b
  | sendcan as, sendcan bs => as = bs
  | onroadEvents as, onroadEvents bs => as = bs
  | userFlag, userFlag => true
  | _, _ => false

end Payload

/-! ## The numbers inside -/

def XyztData.numbers (d : XyztData) : List Binary.Value :=
  (d.x ++ d.y ++ d.z ++ d.t).map Binary32.value

def DisengagePrediction.numbers (d : DisengagePrediction) : List Binary.Value :=
  (d.t ++ d.brakeDisengageProbs ++ d.steerOverrideProbs).map Binary32.value

namespace Payload

/-- The floating-point fields of a payload, in the order of its fields. -/
def numbers : Payload → List Binary.Value
  | carState r => [r.vEgo.value, r.aEgo.value, r.steeringAngleDeg.value, r.cruise.speed.value]
  | controlsState r => [r.curvature.value, r.cumLagMs.value]
  | modelV2 r =>
    r.position.numbers ++ r.velocity.numbers ++ r.laneLines.flatMap XyztData.numbers
      ++ r.laneLineProbs.map Binary32.value
      ++ r.info.engagedProb.value :: r.info.disengagePredictions.flatMap DisengagePrediction.numbers
  | radarState r => [r.leadOne.dRel.value, r.leadOne.vRel.value, r.leadTwo.dRel.value, r.leadTwo.vRel.value]
  | deviceState r => r.freeSpacePercent.value :: r.cpuTempC.map Binary32.value
  | liveCalibration r => r.rpyCalib.map Binary32.value
  | carParams r => [r.mass.value, r.wheelbase.value, r.steerRatio.value]
  | gpsLocation r => [r.latitude.value, r.longitude.value, r.altitude.value, r.speed.value]
  | pandaStates _ | sendcan _ | onroadEvents _ | userFlag => []

end Payload

end TopicHealth
