import TopicHealth.Binary
import TopicHealth.Service

/-!
# Payloads

The record that each service carries, and the payload of an event: a record or a list of records, tagged by its
service. Every field has a default (zero, false or nothing); `Payload.blank` builds the payload of defaults.
-/

namespace TopicHealth

structure CruiseState where
  enabled : Bool := false
  available : Bool := false
  speed : Binary32 := ⟨0⟩
deriving DecidableEq, Inhabited

structure CarState where
  vEgo : Binary32 := ⟨0⟩
  aEgo : Binary32 := ⟨0⟩
  steeringAngleDeg : Binary32 := ⟨0⟩
  gasPressed : Bool := false
  brakePressed : Bool := false
  cruise : CruiseState := {}
deriving DecidableEq, Inhabited

structure ControlsState where
  enabled : Bool := false
  active : Bool := false
  curvature : Binary32 := ⟨0⟩
  cumLagMs : Binary32 := ⟨0⟩
deriving DecidableEq, Inhabited

/-- Samples of position or velocity along a predicted horizon. -/
structure XyztData where
  x : List Binary32 := []
  y : List Binary32 := []
  z : List Binary32 := []
  t : List Binary32 := []
deriving DecidableEq, Inhabited

structure DisengagePrediction where
  t : List Binary32 := []
  brakeDisengageProbs : List Binary32 := []
  steerOverrideProbs : List Binary32 := []
deriving DecidableEq, Inhabited

structure ModelMeta where
  engagedProb : Binary32 := ⟨0⟩
  disengagePredictions : List DisengagePrediction := []
deriving DecidableEq, Inhabited

structure ModelV2 where
  frameId : UInt32 := 0
  position : XyztData := {}
  velocity : XyztData := {}
  laneLines : List XyztData := []
  laneLineProbs : List Binary32 := []
  info : ModelMeta := {}
deriving DecidableEq, Inhabited

structure LeadData where
  status : Bool := false
  dRel : Binary32 := ⟨0⟩
  vRel : Binary32 := ⟨0⟩
deriving DecidableEq, Inhabited

structure RadarState where
  leadOne : LeadData := {}
  leadTwo : LeadData := {}
deriving DecidableEq, Inhabited

structure DeviceState where
  freeSpacePercent : Binary32 := ⟨0⟩
  memoryUsagePercent : Int8 := 0
  cpuTempC : List Binary32 := []
  started : Bool := false
deriving DecidableEq, Inhabited

structure PandaState where
  ignitionLine : Bool := false
  controlsAllowed : Bool := false
  rxBufferOverflow : UInt32 := 0
  txBufferOverflow : UInt32 := 0
deriving DecidableEq, Inhabited

structure LiveCalibration where
  calStatus : Int8 := 0
  calPerc : Int8 := 0
  rpyCalib : List Binary32 := []
deriving DecidableEq, Inhabited

structure CarParams where
  carFingerprint : String := ""
  mass : Binary32 := ⟨0⟩
  wheelbase : Binary32 := ⟨0⟩
  steerRatio : Binary32 := ⟨0⟩
deriving DecidableEq, Inhabited

structure GpsLocation where
  latitude : Binary64 := ⟨0⟩
  longitude : Binary64 := ⟨0⟩
  altitude : Binary64 := ⟨0⟩
  speed : Binary32 := ⟨0⟩
  hasFix : Bool := false
deriving DecidableEq, Inhabited

structure CanFrame where
  address : UInt32 := 0
  src : UInt8 := 0
  dat : List UInt8 := []
deriving DecidableEq, Inhabited

structure OnroadEvent where
  name : String := ""
  enable : Bool := false
  noEntry : Bool := false
  warning : Bool := false
deriving DecidableEq, Inhabited

/-- What an event carries: the record or records of one service. -/
inductive Payload where
  | carState (record : CarState)
  | controlsState (record : ControlsState)
  | modelV2 (record : ModelV2)
  | radarState (record : RadarState)
  | deviceState (record : DeviceState)
  | pandaStates (records : List PandaState)
  | liveCalibration (record : LiveCalibration)
  | carParams (record : CarParams)
  | gpsLocation (record : GpsLocation)
  | sendcan (records : List CanFrame)
  | onroadEvents (records : List OnroadEvent)
  | userFlag
deriving DecidableEq, Inhabited

namespace Payload

/-- The service that the payload belongs to. -/
def service : Payload → Service
  | carState _ => .carState
  | controlsState _ => .controlsState
  | modelV2 _ => .modelV2
  | radarState _ => .radarState
  | deviceState _ => .deviceState
  | pandaStates _ => .pandaStates
  | liveCalibration _ => .liveCalibration
  | carParams _ => .carParams
  | gpsLocation _ => .gpsLocation
  | sendcan _ => .sendcan
  | onroadEvents _ => .onroadEvents
  | userFlag => .userFlag

/-- The payload of defaults; a list has `count` records. -/
def blank (service : Service) (count : Nat) : Payload :=
  match service with
  | .carState => carState {}
  | .controlsState => controlsState {}
  | .modelV2 => modelV2 {}
  | .radarState => radarState {}
  | .deviceState => deviceState {}
  | .pandaStates => pandaStates (List.replicate count {})
  | .liveCalibration => liveCalibration {}
  | .carParams => carParams {}
  | .gpsLocation => gpsLocation {}
  | .sendcan => sendcan (List.replicate count {})
  | .onroadEvents => onroadEvents (List.replicate count {})
  | .userFlag => userFlag

end Payload

end TopicHealth
