import Mathlib.Data.List.Nodup
import TopicHealth.Bus.Signal

/-!
# Histories of the bus

Whatever happens to a bus is a sequence of actions. Each action acts on every reader by itself, and a subscription
adds one reader under a number that was never used before.

* `readers_act`: what an action leaves of the readers, and which one it adds.
* `WellFormed.act`, `wellFormed_run`: numbers of readers stay distinct along every history.
* `WellFormed.reader?_act`: what becomes of one reader.
-/

namespace TopicHealth

namespace Bus

/-- What someone does to the bus. -/
inductive Action where
  | openPublisher (endpoint : String)
  | closePublisher (p : Publisher)
  | send (p : Publisher) (m : Message)
  | subscribe (endpoint addr : String) (conflate : Bool)
  | retain (s : Subscriber)
  | release (s : Subscriber)
  | take (s : Subscriber)
  | setGates (gates : Gates)
  | setSignals (signals : List Bool)

namespace Action

/-- The reader whose subscribers the action concerns. -/
def reader? : Action → Option Nat
  | retain s | release s | take s => some s.reader
  | _ => none

/-- The message that the action sends on a channel. -/
def sentOn (ch : Channel) : Action → Option Message
  | send p m => if ch = Channel.published p.endpoint then some m else none
  | _ => none

/-- The action does not hold receives up at gates. -/
def Ungated : Action → Prop
  | setGates gates => gates.active = false
  | _ => True

end Action

/-- The bus after an action. -/
def act (b : Bus) : Action → Bus
  | .openPublisher endpoint => (b.openPublisher endpoint).bus
  | .closePublisher p => b.closePublisher p
  | .send p m => b.send p m
  | .subscribe endpoint addr conflate => (b.subscribe endpoint addr conflate).bus
  | .retain s => b.retain s
  | .release s => b.release s
  | .take s => (b.take s).2
  | .setGates gates => { b with gates }
  | .setSignals signals => { b with signals }

/-- The bus after some actions. -/
def run (b : Bus) (actions : List Action) : Bus := actions.foldl act b

end Bus

open Bus

/-! ## One reader -/

/-- What an action makes of a reader; none when its last subscriber goes. -/
def Reader.act (r : Reader) : Action → Option Reader
  | .send p m => some (if r.channel = Channel.published p.endpoint then r.deliver m else r)
  | .retain s => some (if r.id = s.reader then { r with clones := r.clones + 1 } else r)
  | .release s =>
    if r.id = s.reader then
      if 1 < r.clones then some { r with clones := r.clones - 1 } else none
    else some r
  | .take s => some (if r.id = s.reader then { r with queue := r.queue.tail } else r)
  | _ => some r

namespace Reader

/-- A reader keeps its number, its channel and its kind for as long as it is there. -/
theorem act_eq_some {r r' : Reader} {action : Action} (h : r.act action = some r') :
    r'.id = r.id ∧ r'.channel = r.channel ∧ r'.conflate = r.conflate := by
  cases action with
  | send | retain | take =>
    cases h
    split_ifs <;> exact ⟨rfl, rfl, rfl⟩
  | release s =>
    simp only [act] at h
    split_ifs at h <;> cases h <;> exact ⟨rfl, rfl, rfl⟩
  | openPublisher | closePublisher | subscribe | setGates | setSignals =>
    cases h
    exact ⟨rfl, rfl, rfl⟩

/-- A reader whose subscribers an action does not concern takes what the action sends on its channel. -/
theorem act_of_reader?_ne {r : Reader} {action : Action} (h : action.reader? ≠ some r.id) :
    r.act action = some ((action.sentOn r.channel).elim r r.deliver) := by
  cases action with
  | send p m =>
    simp only [act, Action.sentOn]
    split_ifs <;> rfl
  | retain s | release s | take s =>
    have hid : ¬ r.id = s.reader := fun heq => h (congrArg some heq.symm)
    simp [act, hid, Action.sentOn]
  | _ => rfl

end Reader

namespace Bus

variable {b : Bus}

/-! ## All readers -/

/-- The flag is set whether or not it was set before. -/
theorem bus_openPublisher (b : Bus) (endpoint : String) :
    (b.openPublisher endpoint).bus = b.putClaim endpoint true := by
  cases h : b.claimed endpoint <;> simp [openPublisher, claim, h]

/-- The reader that an action adds, if it is a subscription. -/
def added (b : Bus) : Action → Option Reader
  | .subscribe endpoint addr conflate =>
    (IpAddress.parse? addr).map fun ip => ⟨b.serial, ⟨ip, endpoint⟩, conflate, [], 1⟩
  | _ => none

theorem release_readers (b : Bus) (s : Subscriber) :
    (b.release s).readers = b.readers.filterMap fun r => r.act (.release s) := by
  -- Counting a subscriber less and dropping a reader without one are a single pass over the readers.
  simp only [release, modifyReader, ← List.filterMap_eq_map, ← List.filterMap_eq_filter, List.filterMap_filterMap]
  congr 1
  funext r
  -- A reader of which one subscriber or none is left to count has none after that.
  have hlast : 0 < r.clones - 1 ↔ 1 < r.clones := Nat.sub_pos_iff_lt
  by_cases hid : r.id = s.reader
  · simp only [Function.comp_apply, Option.guard, Reader.act, hid, if_true, ne_eq, not_true_eq_false, decide_false,
      Bool.false_or, decide_eq_true_eq, hlast, Option.bind_some]
  · simp [Reader.act, hid, Option.guard]

/-- An action changes the readers one by one, drops some of them and adds one at most. -/
theorem readers_act (b : Bus) (action : Action) :
    (b.act action).readers = (b.readers.filterMap fun r => r.act action) ++ (b.added action).toList := by
  cases action with
  | openPublisher endpoint =>
    rw [act, bus_openPublisher]
    simp [putClaim, Reader.act, added]
  | subscribe endpoint addr conflate =>
    simp only [act, subscribe]
    cases hip : IpAddress.parse? addr <;> simp [Reader.act, added, hip]
  | release s => simp [act, release_readers, added]
  | closePublisher | send | retain | take | setGates | setSignals =>
    simp [act, closePublisher, putClaim, send, retain, take, modifyReader, Reader.act, added, List.filterMap_eq_map']

/-- Gates that are out of use stay so, unless they are set. -/
theorem gates_act {action : Action} (h : action.Ungated) (hb : b.gates.active = false) :
    (b.act action).gates.active = false := by
  cases action with
  | openPublisher endpoint =>
    rw [act, bus_openPublisher]
    exact hb
  | subscribe endpoint addr conflate =>
    simp only [act, subscribe]
    cases IpAddress.parse? addr <;> exact hb
  | setGates gates => exact h
  | closePublisher | send | retain | release | take | setSignals => exact hb

/-- A reader is given the next number. -/
theorem serial_act (b : Bus) (action : Action) : b.serial + (b.added action).toList.length ≤ (b.act action).serial := by
  cases action with
  | openPublisher endpoint =>
    rw [act, bus_openPublisher]
    exact Nat.le_refl _
  | subscribe endpoint addr conflate =>
    simp only [act, subscribe, added]
    cases IpAddress.parse? addr <;> simp
  | closePublisher | send | retain | release | take | setGates | setSignals => exact Nat.le_refl _

theorem added_id {action : Action} {r : Reader} (h : b.added action = some r) : r.id = b.serial := by
  cases action with
  | subscribe endpoint addr conflate =>
    simp only [added, Option.map_eq_some_iff] at h
    obtain ⟨ip, -, rfl⟩ := h
    rfl
  | _ => cases h

/-! ## Numbers -/

/-- Readers bear distinct numbers, all of which were given out. -/
structure WellFormed (b : Bus) : Prop where
  lt_serial : ∀ r ∈ b.readers, r.id < b.serial
  nodup : (b.readers.map Reader.id).Nodup

theorem wellFormed_empty : WellFormed {} := by
  constructor
  · intro r hr
    cases hr
  · exact List.nodup_nil

theorem ids_filterMap_act (readers : List Reader) (action : Action) :
    ((readers.filterMap fun r => r.act action).map Reader.id).Sublist (readers.map Reader.id) := by
  induction readers with
  | nil => exact List.Sublist.refl _
  | cons r readers ih =>
    cases hr : r.act action with
    | none =>
      simp only [List.filterMap_cons, hr]
      exact ih.cons r.id
    | some r' =>
      simp only [List.filterMap_cons, hr, List.map_cons, (Reader.act_eq_some hr).1]
      exact ih.cons_cons r.id

/-- No two readers get the same number. -/
theorem WellFormed.act (h : b.WellFormed) (action : Action) : (b.act action).WellFormed := by
  have hserial := serial_act b action
  -- A reader that was there keeps its number, and one that is added has the next.
  have hids : ∀ id ∈ (b.readers.filterMap fun r => r.act action).map Reader.id, id < b.serial := by
    intro id hid
    obtain ⟨r, hr, rfl⟩ := List.mem_map.mp ((ids_filterMap_act b.readers action).subset hid)
    exact h.lt_serial r hr
  constructor
  · intro r hr
    rw [readers_act, List.mem_append, Option.mem_toList] at hr
    rcases hr with hr | hr
    · have hlt := hids r.id (List.mem_map_of_mem hr)
      omega
    · rw [hr, Option.toList_some, List.length_singleton] at hserial
      rw [added_id hr]
      omega
  · rw [readers_act, List.map_append]
    refine List.Nodup.append (h.nodup.sublist (ids_filterMap_act b.readers action)) ?_ ?_
    · cases b.added action <;> simp
    · intro id hid hadded
      obtain ⟨r, hr, rfl⟩ := List.mem_map.mp hadded
      have hlt := hids r.id hid
      rw [added_id (Option.mem_toList.mp hr)] at hlt
      exact Nat.lt_irrefl _ hlt

/-- Along a history the numbers of readers stay distinct. -/
theorem wellFormed_run (actions : List Action) (h : b.WellFormed) : (b.run actions).WellFormed := by
  induction actions generalizing b with
  | nil => exact h
  | cons action actions ih => exact ih (h.act action)

/-! ## The reader of a number -/

theorem id_of_reader? {id : Nat} {r : Reader} (h : b.reader? id = some r) : r.id = id := by
  simpa using List.find?_some h

/-- A reader is found by its number. -/
theorem WellFormed.reader?_eq_some_iff (h : b.WellFormed) {id : Nat} {r : Reader} :
    b.reader? id = some r ↔ r ∈ b.readers ∧ r.id = id := by
  constructor
  · intro hr
    exact ⟨List.mem_of_find?_eq_some hr, id_of_reader? hr⟩
  · rintro ⟨hr, rfl⟩
    cases hfound : b.reader? r.id with
    | none =>
      have hnone := List.find?_eq_none.mp hfound r hr
      simp at hnone
    | some r' =>
      rw [List.inj_on_of_nodup_map h.nodup (List.mem_of_find?_eq_some hfound) hr (id_of_reader? hfound)]

/-- An action acts on each reader that is there by itself. -/
theorem WellFormed.reader?_act (h : b.WellFormed) {id : Nat} (hid : id < b.serial) (action : Action) :
    (b.act action).reader? id = (b.reader? id).bind fun r => r.act action := by
  ext r'
  rw [(h.act action).reader?_eq_some_iff, Option.bind_eq_some_iff, readers_act, List.mem_append, List.mem_filterMap]
  constructor
  · rintro ⟨⟨r, hr, hact⟩ | hadded, hid'⟩
    · have hsame := (Reader.act_eq_some hact).1
      exact ⟨r, h.reader?_eq_some_iff.mpr ⟨hr, hsame.symm.trans hid'⟩, hact⟩
    · rw [added_id (Option.mem_toList.mp hadded)] at hid'
      omega
  · rintro ⟨r, hr, hact⟩
    obtain ⟨hmem, hid'⟩ := h.reader?_eq_some_iff.mp hr
    exact ⟨.inl ⟨r, hmem, hact⟩, (Reader.act_eq_some hact).1.trans hid'⟩

/-- A new reader is found under the number it was given. -/
theorem WellFormed.reader?_added (h : b.WellFormed) {action : Action} {r : Reader} (hr : b.added action = some r) :
    (b.act action).reader? b.serial = some r := by
  rw [(h.act action).reader?_eq_some_iff, readers_act, hr]
  exact ⟨List.mem_append_right _ (Option.mem_toList.mpr rfl), added_id hr⟩

end Bus

end TopicHealth
