/-!
# Services

The topics of the bus. Each has a name, a nominal publish rate and a payload that is either one record or a
list of records. A rate of zero marks an event-driven service, which no liveness or rate check applies to.
-/

namespace TopicHealth

/-- A topic of the bus. -/
inductive Service where
  | carState
  | controlsState
  | modelV2
  | radarState
  | deviceState
  | pandaStates
  | liveCalibration
  | carParams
  | gpsLocation
  | sendcan
  | onroadEvents
  | userFlag
deriving DecidableEq, Repr, Inhabited

namespace Service

/-- Every service, in declaration order. -/
def all : List Service :=
  [carState, controlsState, modelV2, radarState, deviceState, pandaStates, liveCalibration, carParams,
    gpsLocation, sendcan, onroadEvents, userFlag]

/-- The name of the service, which is also its endpoint on the bus. -/
def name : Service → String
  | carState => "carState"
  | controlsState => "controlsState"
  | modelV2 => "modelV2"
  | radarState => "radarState"
  | deviceState => "deviceState"
  | pandaStates => "pandaStates"
  | liveCalibration => "liveCalibration"
  | carParams => "carParams"
  | gpsLocation => "gpsLocation"
  | sendcan => "sendcan"
  | onroadEvents => "onroadEvents"
  | userFlag => "userFlag"

instance : ToString Service := ⟨name⟩

/-- The place of a service in declaration order, which is also its order among the services. -/
def index : Service → Nat
  | carState => 0
  | controlsState => 1
  | modelV2 => 2
  | radarState => 3
  | deviceState => 4
  | pandaStates => 5
  | liveCalibration => 6
  | carParams => 7
  | gpsLocation => 8
  | sendcan => 9
  | onroadEvents => 10
  | userFlag => 11

instance : LE Service := ⟨fun s t => s.index ≤ t.index⟩

instance (s t : Service) : Decidable (s ≤ t) := inferInstanceAs (Decidable (s.index ≤ t.index))

instance : LT Service := ⟨fun s t => s.index < t.index⟩

instance (s t : Service) : Decidable (s < t) := inferInstanceAs (Decidable (s.index < t.index))

instance : Ord Service := ⟨fun s t => compare s.index t.index⟩

/-- The service of a name, which is matched exactly. -/
def ofName? (name : String) : Option Service :=
  all.find? fun s => s.name == name

/-- What is said of a name that no service bears. -/
def unknownMessage (name : String) : String := "unknown service '" ++ name ++ "'"

/-- The nominal publish rate in hundredths of a hertz; zero for an event-driven service. -/
def centihertz : Service → Nat
  | carState => 10000
  | controlsState => 10000
  | modelV2 => 2000
  | radarState => 2000
  | deviceState => 200
  | pandaStates => 1000
  | liveCalibration => 400
  | carParams => 2
  | gpsLocation => 100
  | sendcan => 10000
  | onroadEvents => 100
  | userFlag => 0

/-- Whether the service has a nominal rate, and so a liveness window and a rate threshold. -/
def hasRate (s : Service) : Bool := 0 < s.centihertz

/-- Whether the payload of the service is a list of records. -/
def isList : Service → Bool
  | pandaStates | sendcan | onroadEvents => true
  | _ => false

/-- The rate in hertz as it is written in log lines: no needless zero, but always a digit after the point. -/
def rateText (s : Service) : String :=
  let whole := s.centihertz / 100
  let rest := s.centihertz % 100
  if rest % 10 = 0 then s!"{whole}.{rest / 10}"
  else if rest < 10 then s!"{whole}.0{rest}" else s!"{whole}.{rest}"

/-! ## Laws of the table -/

theorem nodup_all : all.Nodup := by
  decide

/-- A service stands in the table at its index. -/
theorem getElem?_all_index (s : Service) : all[s.index]? = some s := by
  cases s <;> rfl

/-- The table gives a service only at its index. -/
theorem getElem?_all_eq_some_iff {n : Nat} {s : Service} : all[n]? = some s ↔ n = s.index := by
  constructor
  · intro h
    obtain ⟨hn, _⟩ := List.getElem?_eq_some_iff.mp h
    exact (List.getElem?_inj hn nodup_all).mp (h.trans (getElem?_all_index s).symm)
  · rintro rfl
    exact getElem?_all_index s

theorem index_lt (s : Service) : s.index < 12 := by
  cases s <;> decide

theorem index_injective {s t : Service} (h : s.index = t.index) : s = t := by
  have hs := getElem?_all_index s
  rw [h, getElem?_all_index t] at hs
  exact (Option.some.inj hs).symm

theorem name_injective {s t : Service} (h : s.name = t.name) : s = t := by
  revert h
  cases s <;> cases t <;> simp [name]

/-- Looking a name up finds the service that bears it. -/
theorem ofName?_name (s : Service) : ofName? s.name = some s := by
  cases s <;> rfl

end Service

end TopicHealth
