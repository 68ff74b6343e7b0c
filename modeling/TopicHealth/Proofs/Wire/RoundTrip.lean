import TopicHealth.Proofs.Wire.Event

/-!
# Round trips

* `same_self_iff`: an event is numerically equal to itself exactly when each of its floating-point fields is a number.
* `decode_encode_eq`: an event comes back from its wire form bit for bit.
-/

namespace TopicHealth

/-! ## Equality with itself -/

/-- A value is the same as itself, unless it is not a number. -/
theorem Binary.Value.same_self (v : Binary.Value) : v.same v = !v.isNaN := by
  cases v <;> simp [same, isNaN]

theorem Binary32.same_self (x : Binary32) : x.same x = !x.value.isNaN := x.value.same_self

theorem Binary64.same_self (x : Binary64) : x.same x = !x.value.isNaN := x.value.same_self

theorem sameList_self {α : Type} (same : α → α → Bool) (xs : List α) :
    sameList same xs xs = xs.all fun x => same x x := by
  induction xs with
  | nil => rfl
  | cons x xs ih => rw [sameList, ih, List.all_cons]

/-- Whether every value of a list is a number. -/
def Binary.allNumbers (values : List Binary.Value) : Bool := values.all fun v => !v.isNaN

theorem XyztData.same_self (r : XyztData) : r.same r = Binary.allNumbers r.numbers := by
  simp [same, numbers, sameList_self, Binary.allNumbers, Binary32.same_self, Bool.and_assoc, Function.comp_def]

theorem DisengagePrediction.same_self (r : DisengagePrediction) : r.same r = Binary.allNumbers r.numbers := by
  simp [same, numbers, sameList_self, Binary.allNumbers, Binary32.same_self, Bool.and_assoc, Function.comp_def]

theorem Payload.same_self (p : Payload) : p.same p = Binary.allNumbers p.numbers := by
  cases p with
  | carState r =>
    simp [same, numbers, CarState.same, CruiseState.same, Binary.allNumbers, Binary32.same_self, Bool.and_assoc]
  | controlsState r =>
    simp [same, numbers, ControlsState.same, Binary.allNumbers, Binary32.same_self]
  | modelV2 r =>
    simp [same, numbers, ModelV2.same, ModelMeta.same, XyztData.same_self, DisengagePrediction.same_self, sameList_self,
      Binary.allNumbers, Binary32.same_self, Bool.and_assoc, List.all_flatMap, Function.comp_def]
  | radarState r =>
    simp [same, numbers, RadarState.same, LeadData.same, Binary.allNumbers, Binary32.same_self, Bool.and_assoc]
  | deviceState r =>
    simp [same, numbers, DeviceState.same, sameList_self, Binary.allNumbers, Binary32.same_self, Function.comp_def]
  | liveCalibration r =>
    simp [same, numbers, LiveCalibration.same, sameList_self, Binary.allNumbers, Binary32.same_self, Function.comp_def]
  | carParams r =>
    simp [same, numbers, CarParams.same, Binary.allNumbers, Binary32.same_self, Bool.and_assoc]
  | gpsLocation r =>
    simp [same, numbers, GpsLocation.same, Binary.allNumbers, Binary32.same_self, Binary64.same_self, Bool.and_assoc]
  | pandaStates | sendcan | onroadEvents | userFlag => simp [same, numbers, Binary.allNumbers]

namespace Event

open Wire

/-- An event is numerically equal to itself exactly when each of its floating-point fields is a number. -/
theorem same_self_iff (e : Event) : e.same e ↔ ∀ v ∈ e.payload.numbers, v.isNaN = false := by
  simp [same, Payload.same_self, Binary.allNumbers]

/-! ## There and back -/

/-- An event whose lists and texts are shorter than 2^64 comes back from its wire form bit for bit, so no other event
has that form; numerically it is the same exactly when each of its floating-point fields is a number. The form is
the shortest that the format allows, and with anything behind it decodes to nothing. -/
theorem decode_encode_eq (e : Event) (h : e.Fits) :
    decode e.encode = .ok e
      ∧ (∀ e' : Event, e'.Fits → e'.encode = e.encode → e' = e)
      ∧ (∀ d, decode e.encode = .ok d → (d.same e ↔ ∀ v ∈ e.payload.numbers, v.isNaN = false))
      ∧ WireForm e e.encode
      ∧ (∀ bytes, WireForm e bytes → e.encode.length ≤ bytes.length)
      ∧ ∀ more, more ≠ [] → decode (e.encode ++ more) = .error .trailingBytes := by
  have hdecode : ∀ {e : Event}, e.Fits → decode e.encode = .ok e := fun h => decode_eq_ok_iff.mpr (wireForm_encode h)
  refine ⟨hdecode h, ?_, ?_, wireForm_encode h, fun bytes hform => hform.length_encode_le, ?_⟩
  · intro e' h' heq
    have hok := hdecode h'
    rw [heq, hdecode h] at hok
    exact (Except.ok.inj hok).symm
  · intro d hd
    rw [hdecode h] at hd
    cases hd
    exact same_self_iff e
  · exact fun more hmore => decode_append_of_ok hmore (hdecode h)

/-- Car parameters with a text outside ASCII and a field that is not a number. -/
def unusualParams : Event :=
  ⟨0xffffffffffffffff, true,
    .carParams { carFingerprint := "Škoda 明", mass := ⟨0x7fc00001⟩, steerRatio := ⟨0x80000000⟩ }⟩

/-- The event of unusual parameters comes back, and is not the same as itself. -/
theorem decode_encode_unusualParams : unusualParams.Fits ∧ decode unusualParams.encode = .ok unusualParams
    ∧ ¬ unusualParams.same unusualParams := by
  have h : unusualParams.Fits := by
    intro n hn
    simp [unusualParams, parts, Payload.parts, CarParams.parts, Codec.textParts] at hn
    rw [hn]
    decide
  have hall := decode_encode_eq unusualParams h
  refine ⟨h, hall.1, fun hsame => ?_⟩
  have hnan := (hall.2.2.1 unusualParams hall.1).mp hsame
  have hmass := hnan (Binary32.value ⟨0x7fc00001⟩) (by simp [unusualParams, Payload.numbers])
  exact absurd hmass (by decide)

end Event

end TopicHealth
