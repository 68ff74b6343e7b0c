import TopicHealth.Proofs.Wire.Codec
import TopicHealth.Wire.Event

/-!
# Parts of payloads

The parts of each record, in the order of its fields, and with them the laws of its codec.

* `Payload.codec_laws`, `Event.codec_laws`: the codecs of payloads and of events read and write exactly these parts.
-/

namespace TopicHealth

open Wire Wire.Codec

/-! ## Records -/

/-- The parts of a list of numbers. -/
def Wire.singles (xs : List Binary32) : List Part := listParts (fun x => [.single x]) xs

theorem Wire.Codec.singles_laws : (list single).Laws singles := single_laws.list

def CruiseState.parts (r : CruiseState) : List Part := [.flag r.enabled, .flag r.available, .single r.speed]

theorem Wire.Codec.cruiseState_laws : cruiseState.Laws CruiseState.parts :=
  (flag_laws.both (flag_laws.both single_laws)).via (fun _ => rfl) (fun _ => rfl) fun _ => rfl

def CarState.parts (r : CarState) : List Part :=
  [.single r.vEgo, .single r.aEgo, .single r.steeringAngleDeg, .flag r.gasPressed, .flag r.brakePressed]
    ++ r.cruise.parts

theorem Wire.Codec.carState_laws : carState.Laws CarState.parts :=
  (single_laws.both (single_laws.both (single_laws.both (flag_laws.both (flag_laws.both cruiseState_laws))))).via
    (fun _ => rfl) (fun _ => rfl) fun _ => rfl

def ControlsState.parts (r : ControlsState) : List Part :=
  [.flag r.enabled, .flag r.active, .single r.curvature, .single r.cumLagMs]

theorem Wire.Codec.controlsState_laws : controlsState.Laws ControlsState.parts :=
  (flag_laws.both (flag_laws.both (single_laws.both single_laws))).via (fun _ => rfl) (fun _ => rfl) fun _ => rfl

def XyztData.parts (r : XyztData) : List Part := singles r.x ++ singles r.y ++ singles r.z ++ singles r.t

theorem Wire.Codec.xyztData_laws : xyztData.Laws XyztData.parts :=
  (singles_laws.both (singles_laws.both (singles_laws.both singles_laws))).via (fun _ => rfl) (fun _ => rfl)
    fun _ => by simp only [XyztData.parts, List.append_assoc]

def DisengagePrediction.parts (r : DisengagePrediction) : List Part :=
  singles r.t ++ singles r.brakeDisengageProbs ++ singles r.steerOverrideProbs

theorem Wire.Codec.disengagePrediction_laws : disengagePrediction.Laws DisengagePrediction.parts :=
  (singles_laws.both (singles_laws.both singles_laws)).via (fun _ => rfl) (fun _ => rfl)
    fun _ => by simp only [DisengagePrediction.parts, List.append_assoc]

def ModelMeta.parts (r : ModelMeta) : List Part :=
  .single r.engagedProb :: listParts DisengagePrediction.parts r.disengagePredictions

theorem Wire.Codec.modelMeta_laws : modelMeta.Laws ModelMeta.parts :=
  (single_laws.both disengagePrediction_laws.list).via (fun _ => rfl) (fun _ => rfl) fun _ => rfl

def ModelV2.parts (r : ModelV2) : List Part :=
  .word r.frameId :: r.position.parts ++ r.velocity.parts ++ listParts XyztData.parts r.laneLines
    ++ singles r.laneLineProbs ++ r.info.parts

theorem Wire.Codec.modelV2_laws : modelV2.Laws ModelV2.parts :=
  (word_laws.both (xyztData_laws.both (xyztData_laws.both (xyztData_laws.list.both
    (singles_laws.both modelMeta_laws))))).via (fun _ => rfl) (fun _ => rfl)
    fun _ => by simp only [ModelV2.parts, List.append_assoc, List.cons_append, List.nil_append]

def LeadData.parts (r : LeadData) : List Part := [.flag r.status, .single r.dRel, .single r.vRel]

theorem Wire.Codec.leadData_laws : leadData.Laws LeadData.parts :=
  (flag_laws.both (single_laws.both single_laws)).via (fun _ => rfl) (fun _ => rfl) fun _ => rfl

def RadarState.parts (r : RadarState) : List Part := r.leadOne.parts ++ r.leadTwo.parts

theorem Wire.Codec.radarState_laws : radarState.Laws RadarState.parts :=
  (leadData_laws.both leadData_laws).via (fun _ => rfl) (fun _ => rfl) fun _ => rfl

def DeviceState.parts (r : DeviceState) : List Part :=
  [.single r.freeSpacePercent, .signedByte r.memoryUsagePercent] ++ singles r.cpuTempC ++ [.flag r.started]

theorem Wire.Codec.deviceState_laws : deviceState.Laws DeviceState.parts :=
  (single_laws.both (signedByte_laws.both (singles_laws.both flag_laws))).via (fun _ => rfl) (fun _ => rfl)
    fun _ => rfl

def PandaState.parts (r : PandaState) : List Part :=
  [.flag r.ignitionLine, .flag r.controlsAllowed, .word r.rxBufferOverflow, .word r.txBufferOverflow]

theorem Wire.Codec.pandaState_laws : pandaState.Laws PandaState.parts :=
  (flag_laws.both (flag_laws.both (word_laws.both word_laws))).via (fun _ => rfl) (fun _ => rfl) fun _ => rfl

def LiveCalibration.parts (r : LiveCalibration) : List Part :=
  [.signedByte r.calStatus, .signedByte r.calPerc] ++ singles r.rpyCalib

theorem Wire.Codec.liveCalibration_laws : liveCalibration.Laws LiveCalibration.parts :=
  (signedByte_laws.both (signedByte_laws.both singles_laws)).via (fun _ => rfl) (fun _ => rfl) fun _ => rfl

def CarParams.parts (r : CarParams) : List Part :=
  textParts r.carFingerprint ++ [.single r.mass, .single r.wheelbase, .single r.steerRatio]

theorem Wire.Codec.carParams_laws : carParams.Laws CarParams.parts :=
  (text_laws.both (single_laws.both (single_laws.both single_laws))).via (fun _ => rfl) (fun _ => rfl) fun _ => rfl

def GpsLocation.parts (r : GpsLocation) : List Part :=
  [.double r.latitude, .double r.longitude, .double r.altitude, .single r.speed, .flag r.hasFix]

theorem Wire.Codec.gpsLocation_laws : gpsLocation.Laws GpsLocation.parts :=
  (double_laws.both (double_laws.both (double_laws.both (single_laws.both flag_laws)))).via (fun _ => rfl)
    (fun _ => rfl) fun _ => rfl

def CanFrame.parts (r : CanFrame) : List Part :=
  [.word r.address, .byte r.src] ++ listParts (fun b => [.byte b]) r.dat

theorem Wire.Codec.canFrame_laws : canFrame.Laws CanFrame.parts :=
  (word_laws.both (byte_laws.both byte_laws.list)).via (fun _ => rfl) (fun _ => rfl) fun _ => rfl

def OnroadEvent.parts (r : OnroadEvent) : List Part :=
  textParts r.name ++ [.flag r.enable, .flag r.noEntry, .flag r.warning]

theorem Wire.Codec.onroadEvent_laws : onroadEvent.Laws OnroadEvent.parts :=
  (text_laws.both (flag_laws.both (flag_laws.both flag_laws))).via (fun _ => rfl) (fun _ => rfl) fun _ => rfl

/-! ## Payloads -/

namespace Payload

/-- The parts of a payload without the tag of its service. -/
def parts : Payload → List Part
  | carState r => r.parts
  | controlsState r => r.parts
  | modelV2 r => r.parts
  | radarState r => r.parts
  | deviceState r => r.parts
  | pandaStates rs => listParts PandaState.parts rs
  | liveCalibration r => r.parts
  | carParams r => r.parts
  | gpsLocation r => r.parts
  | sendcan rs => listParts CanFrame.parts rs
  | onroadEvents rs => listParts OnroadEvent.parts rs
  | userFlag => []

theorem writeBody_eq (p : Payload) : p.writeBody = shortest p.parts := by
  cases p with
  | carState r => exact carState_laws.write r
  | controlsState r => exact controlsState_laws.write r
  | modelV2 r => exact modelV2_laws.write r
  | radarState r => exact radarState_laws.write r
  | deviceState r => exact deviceState_laws.write r
  | pandaStates rs => exact pandaState_laws.list.write rs
  | liveCalibration r => exact liveCalibration_laws.write r
  | carParams r => exact carParams_laws.write r
  | gpsLocation r => exact gpsLocation_laws.write r
  | sendcan rs => exact canFrame_laws.list.write rs
  | onroadEvents rs => exact onroadEvent_laws.list.write rs
  | userFlag => rfl

/-- The reader of one constructor takes the parts of the payloads that it makes. -/
theorem takes_constructor {α : Type} {d : Decoder α} {ps : α → List Part} {make : α → Payload} {s : Service}
    (h : Takes d fun a bytes => Forms (ps a) bytes) (hservice : ∀ a, (make a).service = s)
    (hparts : ∀ a, (make a).parts = ps a) (hall : ∀ p : Payload, p.service = s → ∃ a, p = make a) :
    Takes (make <$> d) fun p bytes => p.service = s ∧ Forms p.parts bytes := by
  refine (h.map make).congr fun p bytes => ?_
  constructor
  · rintro ⟨a, hform, rfl⟩
    exact ⟨hservice a, by rwa [hparts]⟩
  · rintro ⟨hp, hform⟩
    obtain ⟨a, rfl⟩ := hall p hp
    exact ⟨a, by rwa [hparts] at hform, rfl⟩

/-- The body of a service is read into a payload of that service, and by its own schema. -/
theorem takes_readBody (s : Service) : Takes (readBody s) fun p bytes => p.service = s ∧ Forms p.parts bytes := by
  cases s with
  | carState =>
    exact takes_constructor carState_laws.takes (fun _ => rfl) (fun _ => rfl) fun | .carState r, _ => ⟨r, rfl⟩
  | controlsState =>
    exact takes_constructor controlsState_laws.takes (fun _ => rfl) (fun _ => rfl)
      fun | .controlsState r, _ => ⟨r, rfl⟩
  | modelV2 =>
    exact takes_constructor modelV2_laws.takes (fun _ => rfl) (fun _ => rfl) fun | .modelV2 r, _ => ⟨r, rfl⟩
  | radarState =>
    exact takes_constructor radarState_laws.takes (fun _ => rfl) (fun _ => rfl) fun | .radarState r, _ => ⟨r, rfl⟩
  | deviceState =>
    exact takes_constructor deviceState_laws.takes (fun _ => rfl) (fun _ => rfl) fun | .deviceState r, _ => ⟨r, rfl⟩
  | pandaStates =>
    exact takes_constructor pandaState_laws.list.takes (fun _ => rfl) (fun _ => rfl)
      fun | .pandaStates rs, _ => ⟨rs, rfl⟩
  | liveCalibration =>
    exact takes_constructor liveCalibration_laws.takes (fun _ => rfl) (fun _ => rfl)
      fun | .liveCalibration r, _ => ⟨r, rfl⟩
  | carParams =>
    exact takes_constructor carParams_laws.takes (fun _ => rfl) (fun _ => rfl) fun | .carParams r, _ => ⟨r, rfl⟩
  | gpsLocation =>
    exact takes_constructor gpsLocation_laws.takes (fun _ => rfl) (fun _ => rfl) fun | .gpsLocation r, _ => ⟨r, rfl⟩
  | sendcan =>
    exact takes_constructor canFrame_laws.list.takes (fun _ => rfl) (fun _ => rfl) fun | .sendcan rs, _ => ⟨rs, rfl⟩
  | onroadEvents =>
    exact takes_constructor onroadEvent_laws.list.takes (fun _ => rfl) (fun _ => rfl)
      fun | .onroadEvents rs, _ => ⟨rs, rfl⟩
  | userFlag =>
    -- The body without fields is read from no bytes, for which there is no schema to cite.
    refine (takes_pure userFlag).congr fun p bytes => ?_
    constructor
    · rintro ⟨rfl, rfl⟩
      exact ⟨rfl, .nil⟩
    · rintro ⟨hp, hform⟩
      cases p with
      | userFlag => exact ⟨rfl, forms_nil_iff.mp hform⟩
      | _ => cases hp

theorem settled_readBody (s : Service) : Settled (readBody s) := by
  cases s with
  | carState => exact carState_laws.settled.map _
  | controlsState => exact controlsState_laws.settled.map _
  | modelV2 => exact modelV2_laws.settled.map _
  | radarState => exact radarState_laws.settled.map _
  | deviceState => exact deviceState_laws.settled.map _
  | pandaStates => exact pandaState_laws.list.settled.map _
  | liveCalibration => exact liveCalibration_laws.settled.map _
  | carParams => exact carParams_laws.settled.map _
  | gpsLocation => exact gpsLocation_laws.settled.map _
  | sendcan => exact canFrame_laws.list.settled.map _
  | onroadEvents => exact onroadEvent_laws.list.settled.map _
  | userFlag => exact settled_pure _

/-- A payload is the tag of its service and its fields. -/
theorem codec_laws : codec.Laws fun p => .tag p.service :: p.parts where
  write p := by
    show writeVarint p.service.index ++ p.writeBody = _
    rw [writeBody_eq]
    rfl
  takes := by
    -- The tag is the place of the payload's service in the table.
    refine Takes.congr (@Takes.bind _ _ _ _ _ (fun tag p bytes => tag = p.service.index ∧ Forms p.parts bytes)
      takes_word fun tag => ?_) fun p bytes => ?_
    · cases hservice : Service.all[tag]? with
      | some s =>
        rw [Service.getElem?_all_eq_some_iff] at hservice
        refine (takes_readBody s).congr fun p bytes => and_congr_left fun _ => ?_
        rw [hservice]
        exact ⟨fun h => by rw [h], fun h => (Service.index_injective h).symm⟩
      | none =>
        refine (takes_throw _).congr fun p bytes => iff_of_false id ?_
        rintro ⟨rfl, _⟩
        rw [Service.getElem?_all_index] at hservice
        cases hservice
    · simp only [forms_cons_iff]
      constructor
      · rintro ⟨tag, front, back, ⟨_, hform⟩, ⟨rfl, hback⟩, rfl⟩
        exact ⟨front, back, .tag hform, hback, rfl⟩
      · rintro ⟨front, back, htag, hback, rfl⟩
        cases htag with
        | tag hform =>
          exact ⟨_, front, back, ⟨Nat.lt_trans p.service.index_lt (by decide), hform⟩, ⟨rfl, hback⟩, rfl⟩
  settled := by
    refine settled_word.bind fun tag => ?_
    cases Service.all[tag]? with
    | some s => exact settled_readBody s
    | none => exact settled_throw _

end Payload

/-! ## Events -/

namespace Event

/-- The parts of an event: time stamp, flag, tag and payload. -/
def parts (e : Event) : List Part :=
  .long e.logMonoTime :: .flag e.valid :: .tag e.payload.service :: e.payload.parts

/-- An event is its parts one after another: when, whether valid, for which service, and the payload. -/
theorem codec_laws : codec.Laws parts :=
  (long_laws.both (flag_laws.both Payload.codec_laws)).via (fun _ => rfl) (fun _ => rfl) fun _ => rfl

end Event

end TopicHealth
