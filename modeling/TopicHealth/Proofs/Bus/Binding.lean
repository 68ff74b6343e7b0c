import Mathlib.Data.List.Induction
import Mathlib.Tactic.SplitIfs
import TopicHealth.Bus.Gate

/-!
# Bindings of gates

A request for a handle finds the gate that is bound to its identifier and its endpoint, or makes one and binds that.
Which handles share a gate, and which gate is bound, follows from what was asked for and in which order.

* `Together`: the requests whose handles share a gate.
* `Bindings.share`, `Bindings.make`: one handle more, on the gate that is bound already or on a new one.
-/

namespace TopicHealth

/-- What a handle was made for. -/
def GateHandle.key (h : GateHandle) : String × String := (h.identifier, h.endpoint)

/-! ## Requests -/

/-- A request for a handle. -/
structure Request where
  /-- The identifier asked for, or else the scope of the time. -/
  identifier : String
  endpoint : String
  replace : Bool

def Request.key (r : Request) : String × String := (r.identifier, r.endpoint)

/-- The handle that a request gets, on a gate. -/
def Request.handle (r : Request) (gate : Nat) : GateHandle := ⟨r.endpoint, r.identifier, gate⟩

/-- One request is for what another one before it, or the same, is for, and neither it nor one between them asks to
replace the gate of that. -/
def Together (requests : List Request) (i j : Nat) : Prop :=
  ∃ first second, requests[i]? = some first ∧ requests[j]? = some second ∧ first.key = second.key
    ∧ ∀ k r, i < k → k ≤ j → requests[k]? = some r → r.key = first.key → r.replace = false

/-- The last handle that was made for an identifier and an endpoint. -/
def lastHandle? (handles : List GateHandle) (key : String × String) : Option GateHandle :=
  handles.reverse.find? fun h => h.key = key

variable {requests : List Request} {handles : List GateHandle} {key : String × String} {h h' : GateHandle}
  {r : Request} {i j : Nat}

/-- A later request makes no difference to which of the earlier ones got the same gate. -/
theorem together_concat_iff (hj : j < requests.length) (hij : i ≤ j) :
    Together (requests ++ [r]) i j ↔ Together requests i j := by
  have hget : ∀ k, k ≤ j → (requests ++ [r])[k]? = requests[k]? := fun k hk =>
    List.getElem?_append_left (Nat.lt_of_le_of_lt hk hj)
  rw [Together, Together, hget i hij, hget j (Nat.le_refl j)]
  refine exists_congr fun first => exists_congr fun second => ?_
  refine and_congr_right' <| and_congr_right' <| and_congr_right' ?_
  refine forall_congr' fun k => forall_congr' fun between => forall_congr' fun _ => forall_congr' fun hk => ?_
  rw [hget k hk]

/-- Two requests for one key got the same gate if no request for a new one came between them. -/
theorem together_iff {first second : Request} (hfirst : requests[i]? = some first)
    (hsecond : requests[j]? = some second) : Together requests i j ↔ first.key = second.key
      ∧ ∀ k between, i < k → k ≤ j → requests[k]? = some between → between.key = first.key →
        between.replace = false := by
  constructor
  · rintro ⟨first', second', hfirst', hsecond', h⟩
    cases hfirst.symm.trans hfirst'
    cases hsecond.symm.trans hsecond'
    exact h
  · exact fun h => ⟨first, second, hfirst, hsecond, h⟩

theorem together_self (hr : requests[i]? = some r) : Together requests i i :=
  (together_iff hr hr).mpr ⟨rfl, fun _ _ hik hki => absurd hki (Nat.not_le_of_lt hik)⟩

theorem getElem?_concat_eq_some {α : Type} {l : List α} {a x : α} {k : Nat} (hx : (l ++ [a])[k]? = some x) :
    l[k]? = some x ∨ k = l.length ∧ x = a := by
  rcases Nat.lt_or_ge k l.length with hlt | hge
  · rw [List.getElem?_append_left hlt] at hx
    exact .inl hx
  · rw [List.getElem?_append_right hge, List.getElem?_singleton] at hx
    split_ifs at hx with hzero
    cases hx
    exact .inr ⟨by omega, rfl⟩

/-- The newest request is together with one before it if it is for the same, and from there on none replaces. -/
theorem together_last_iff {first : Request} (hfirst : requests[i]? = some first) :
    Together (requests ++ [r]) i requests.length ↔ r.replace = false ∧ first.key = r.key
      ∧ ∀ k between, i < k → requests[k]? = some between → between.key = r.key → between.replace = false := by
  have hi := (List.getElem?_eq_some_iff.mp hfirst).1
  rw [together_iff ((List.getElem?_append_left hi).trans hfirst) List.getElem?_concat_length]
  constructor
  · rintro ⟨hkeys, hnone⟩
    refine ⟨hnone _ r hi (Nat.le_refl _) List.getElem?_concat_length hkeys.symm, hkeys, ?_⟩
    intro k between hik hbetween hkey
    have hk := (List.getElem?_eq_some_iff.mp hbetween).1
    exact hnone k between hik (Nat.le_of_lt hk) ((List.getElem?_append_left hk).trans hbetween) (hkey.trans hkeys.symm)
  · rintro ⟨hreplace, hkeys, hnone⟩
    refine ⟨hkeys, fun k between hik _ hbetween hkey => ?_⟩
    rcases getElem?_concat_eq_some hbetween with hbetween | ⟨-, rfl⟩
    · exact hnone k between hik hbetween (hkey.trans hkeys)
    · exact hreplace

/-- A newest request that does not replace is together with those that the last one for the same is together with. -/
theorem together_last_iff_of_latest {l : Nat} {first last : Request} (hlast : requests[l]? = some last)
    (hkey : last.key = r.key)
    (hlatest : ∀ k between, l < k → requests[k]? = some between → between.key ≠ r.key) (hreplace : r.replace = false)
    (hfirst : requests[i]? = some first) :
    Together (requests ++ [r]) i requests.length ↔ Together requests i l := by
  rw [together_last_iff hfirst, together_iff hfirst hlast, hkey]
  constructor
  · rintro ⟨-, hsame, hnone⟩
    exact ⟨hsame, fun k between hk _ hbetween hbkey => hnone k between hk hbetween (hbkey.trans hsame)⟩
  · rintro ⟨hsame, hnone⟩
    refine ⟨hreplace, hsame, fun k between hk hbetween hbkey => ?_⟩
    rcases Nat.lt_or_ge l k with hlk | hkl
    · exact absurd hbkey (hlatest k between hlk hbetween)
    · exact hnone k between hk hkl hbetween (hbkey.trans hsame.symm)

theorem lastHandle?_concat :
    lastHandle? (handles ++ [h]) key = if h.key = key then some h else lastHandle? handles key := by
  rw [lastHandle?, List.reverse_append, List.reverse_singleton, List.singleton_append, List.find?_cons]
  split_ifs with heq
  · simp [heq]
  · simp [heq, lastHandle?]

theorem ne_of_lastHandle?_eq_none (hlast : lastHandle? handles key = none) (hh : h ∈ handles) : h.key ≠ key := by
  have hnot := List.find?_eq_none.mp hlast h (List.mem_reverse.mpr hh)
  simpa using hnot

/-- After the last handle for something comes none for the same. -/
theorem exists_place_of_lastHandle? (hlast : lastHandle? handles key = some h) :
    h.key = key ∧ ∃ l : Nat, handles[l]? = some h
      ∧ ∀ k, l < k → ∀ h' : GateHandle, handles[k]? = some h' → h'.key ≠ key := by
  induction handles using List.reverseRecOn with
  -- The induction is from the newest handle back, as the search goes.
  | nil => cases hlast
  | append_singleton handles newest ih =>
    rw [lastHandle?_concat] at hlast
    split_ifs at hlast with heq
    · cases hlast
      refine ⟨heq, handles.length, List.getElem?_concat_length, ?_⟩
      intro k hk h' hh'
      have hlt := (List.getElem?_eq_some_iff.mp hh').1
      rw [List.length_append, List.length_singleton] at hlt
      omega
    · obtain ⟨hkey, l, hl, hafter⟩ := ih hlast
      have hlt := (List.getElem?_eq_some_iff.mp hl).1
      refine ⟨hkey, l, (List.getElem?_append_left hlt).trans hl, ?_⟩
      intro k hk h' hh'
      rcases getElem?_concat_eq_some hh' with hh' | ⟨-, rfl⟩
      · exact hafter k hk h' hh'
      · exact heq

/-! ## What the requests make of the gates -/

namespace Gates

variable {gs : Gates} {gate : Nat} {endpoint : String} {identifier : Option String} {replace : Bool}

/-- A handle that is requested for a key with a gate is one for that gate. -/
theorem handle_of_bound (h : gs.bound.lookup ((identifier <|> gs.scope).getD "", endpoint) = some gate) :
    gs.handle endpoint identifier false = (gs, ⟨endpoint, (identifier <|> gs.scope).getD "", gate⟩) := by
  simp only [handle, h]

/-- A new gate is made if it is asked for, or if the key has none yet. -/
theorem handle_of_unbound
    (h : replace = true ∨ gs.bound.lookup ((identifier <|> gs.scope).getD "", endpoint) = none) :
    gs.handle endpoint identifier replace = ((gs.make ((identifier <|> gs.scope).getD "", endpoint)).1,
      ⟨endpoint, (identifier <|> gs.scope).getD "", gs.made.length⟩) := by
  rcases h with rfl | h
  · rfl
  · simp only [handle, h]
    rfl

end Gates

/-- Handles and bindings of gates are what some requests call for, one after another, if so many gates were made. -/
structure Bindings (requests : List Request) (handles : List GateHandle) (bound : List ((String × String) × Nat))
    (made : Nat) : Prop where
  keys : handles.map GateHandle.key = requests.map Request.key
  lt_made : ∀ h ∈ handles, h.gate < made
  bound : ∀ key, bound.lookup key = (lastHandle? handles key).map GateHandle.gate
  shared : ∀ {i j h h'}, i ≤ j → handles[i]? = some h → handles[j]? = some h' →
    (h.gate = h'.gate ↔ Together requests i j)

theorem bindings_nil : Bindings [] [] [] 0 where
  keys := rfl
  lt_made _ hh := absurd hh List.not_mem_nil
  bound _ := rfl
  shared _ hh _ := by cases hh

namespace Bindings

variable {bound : List ((String × String) × Nat)} {made gate : Nat}

theorem length_eq (hb : Bindings requests handles bound made) : handles.length = requests.length := by
  simpa using congrArg List.length hb.keys

/-- The request that a handle was made on. -/
theorem exists_request (hb : Bindings requests handles bound made) (hh : handles[i]? = some h) :
    ∃ r, requests[i]? = some r ∧ r.key = h.key := by
  have hkeys : (requests.map Request.key)[i]? = some h.key := by
    rw [← hb.keys, List.getElem?_map, hh, Option.map_some]
  rw [List.getElem?_map, Option.map_eq_some_iff] at hkeys
  exact hkeys

/-- Every request got a handle, for its key. -/
theorem exists_handle (hb : Bindings requests handles bound made) (hr : requests[i]? = some r) :
    ∃ h, handles[i]? = some h ∧ h.key = r.key := by
  have hkeys : (handles.map GateHandle.key)[i]? = some r.key := by
    rw [hb.keys, List.getElem?_map, hr, Option.map_some]
  rw [List.getElem?_map, Option.map_eq_some_iff] at hkeys
  exact hkeys

/-- With one more request and its handle the handles from before share as they did, so that only what the new handle
is bound to and shares is left to say. -/
theorem concat (hb : Bindings requests handles bound made) {bound' : List ((String × String) × Nat)} {made' : Nat}
    (hmade : made ≤ made') (hgate : gate < made')
    (hbound : ∀ key, bound'.lookup key = if r.key = key then some gate else bound.lookup key)
    (hshared : ∀ {i h}, handles[i]? = some h →
      (h.gate = gate ↔ Together (requests ++ [r]) i requests.length)) :
    Bindings (requests ++ [r]) (handles ++ [r.handle gate]) bound' made' := by
  constructor
  case keys =>
    rw [List.map_append, List.map_append, hb.keys]
    rfl
  case lt_made =>
    intro h hh
    rcases List.mem_append.mp hh with hh | hh
    · exact Nat.lt_of_lt_of_le (hb.lt_made h hh) hmade
    · cases List.mem_singleton.mp hh
      exact hgate
  case bound =>
    intro key
    rw [hbound, lastHandle?_concat, hb.bound]
    exact (apply_ite (Option.map GateHandle.gate) (r.key = key) (some (r.handle gate)) _).symm
  case shared =>
    intro i j h h' hij hh hh'
    -- Two old handles, an old one and the new one, or the new one twice.
    rcases getElem?_concat_eq_some hh' with hold | ⟨rfl, rfl⟩
    · have hj := (List.getElem?_eq_some_iff.mp hold).1
      rw [List.getElem?_append_left (Nat.lt_of_le_of_lt hij hj)] at hh
      rw [together_concat_iff (hb.length_eq ▸ hj) hij]
      exact hb.shared hij hh hold
    · rw [hb.length_eq]
      rcases getElem?_concat_eq_some hh with hh | ⟨rfl, rfl⟩
      · exact hshared hh
      · rw [hb.length_eq]
        exact iff_of_true rfl (together_self List.getElem?_concat_length)

/-- A request that finds a gate bound and does not replace it shares that gate. -/
theorem share (hb : Bindings requests handles bound made) (hbound : bound.lookup r.key = some gate)
    (hreplace : r.replace = false) : Bindings (requests ++ [r]) (handles ++ [r.handle gate]) bound made := by
  rw [hb.bound, Option.map_eq_some_iff] at hbound
  obtain ⟨last, hlast, rfl⟩ := hbound
  obtain ⟨hkey, l, hl, hafter⟩ := exists_place_of_lastHandle? hlast
  -- What the binding of a key holds is the gate of the last handle for it.
  obtain ⟨rl, hrl, hrlkey⟩ := hb.exists_request hl
  refine hb.concat (Nat.le_refl made) (hb.lt_made last (List.mem_of_getElem? hl)) ?_ ?_
  · intro key
    split_ifs with heq
    · rw [← heq, hb.bound, hlast, Option.map_some]
    · rfl
  · intro i h hh
    obtain ⟨ri, hri, hrikey⟩ := hb.exists_request hh
    have hlatest : ∀ k between, l < k → requests[k]? = some between → between.key ≠ r.key := by
      intro k between hk hbetween hbkey
      obtain ⟨hk', hhk, hhkkey⟩ := hb.exists_handle hbetween
      exact hafter k hk hk' hhk (hhkkey.trans hbkey)
    rw [together_last_iff_of_latest hrl (hrlkey.trans hkey) hlatest hreplace hri]
    rcases Nat.lt_or_ge l i with hlt | hle
    · -- The last handle for the same is not after it, so that it is for something else.
      have hne : ri.key ≠ rl.key := fun heq => hlatest i ri hlt hri (heq.trans (hrlkey.trans hkey))
      refine iff_of_false (fun hgate => ?_) fun htogether => hne ((together_iff hri hrl).mp htogether).1
      have htogether := (hb.shared (Nat.le_of_lt hlt) hl hh).mp hgate.symm
      exact hne ((together_iff hrl hri).mp htogether).1.symm
    · exact hb.shared hle hh hl

/-- A request that finds no gate bound, or replaces it, shares its gate with no handle before it. -/
theorem make (hb : Bindings requests handles bound made)
    (hr : r.replace = true ∨ bound.lookup r.key = none) :
    Bindings (requests ++ [r]) (handles ++ [r.handle made]) ((r.key, made) :: bound) (made + 1) := by
  refine hb.concat (Nat.le_succ made) (Nat.lt_succ_self made) ?_ ?_
  · intro key
    rw [List.lookup_cons]
    split_ifs with heq
    · rw [heq, beq_self_eq_true]
    · rw [beq_false_of_ne fun h => heq h.symm]
  · intro i h hh
    obtain ⟨ri, hri, hrikey⟩ := hb.exists_request hh
    -- A new gate has a number that no earlier handle has.
    have hlt := hb.lt_made h (List.mem_of_getElem? hh)
    refine iff_of_false (Nat.ne_of_lt hlt) fun htogether => ?_
    obtain ⟨hreplace, hrir, -⟩ := (together_last_iff hri).mp htogether
    rcases hr with hr | hr
    · rw [hreplace] at hr
      cases hr
    · rw [hb.bound, Option.map_eq_none_iff] at hr
      exact ne_of_lastHandle?_eq_none hr (List.mem_of_getElem? hh) (hrikey.symm.trans hrir)

end Bindings

end TopicHealth
