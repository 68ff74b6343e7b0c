import TopicHealth.Proofs.Bus.Action
import TopicHealth.Proofs.Bus.Binding
import TopicHealth.Proofs.Bus.Gating

/-!
# Tests by themselves

A test makes handles, sets the scope, puts gating in and out of use, enables and disables gates, sets and clears their
signals, and receives. Nobody else is there to make a gate ready while a receive waits at it.

* `Sound.step`, `sound_of_run`: after any moves the gates are what was asked for.
* `ready_step`, `tally_comesTo_le`: no more receives come through a gate than it was made ready for.
* `gates_of_moves`: which handles share a gate, and what receives do at which.
-/

namespace TopicHealth

/-- What a test works with: the bus, and the handles that it has made, in order. -/
structure Harness where
  bus : Bus
  handles : List GateHandle := []

namespace Harness

/-- What a test does. -/
inductive Move where
  /-- Makes a handle; with `enable`, one whose gate, if replaced, is enabled or not as asked. -/
  | handle (endpoint : String) (identifier : Option String) (replace : Bool) (enable : Option Bool)
  | setScope (scope : Option String)
  | activate (active : Bool)
  /-- Enables the gate of the handle at a place, or disables it. -/
  | enable (place : Nat) (enabled : Bool)
  /-- Sets or clears a signal of the gate of the handle at a place. -/
  | put (place : Nat) (which : Gate.Signal) (value : Bool)
  | receive (s : Subscriber) (nonBlocking : Bool) (start : Duration)
  /-- Does something else with the bus, which leaves the gates alone. -/
  | act (action : Bus.Action)

/-- The gates and the handle that a request leads to. -/
def request (gs : Gates) (endpoint : String) (identifier : Option String) (replace : Bool) :
    Option Bool → Gates × GateHandle
  | none => gs.handle endpoint identifier replace
  | some enable => gs.handleWith endpoint identifier replace enable

/-- Does something with the gate of the handle at a place, if there is one. -/
def through (σ : Harness) (place : Nat) (f : Nat → Bus) : Harness :=
  match σ.handles[place]? with
  | some h => { σ with bus := f h.gate }
  | none => σ

/-- Makes a move. A receive that is stuck is the last move of a test. -/
def step [Clock] (σ : Harness) : Move → Option Harness
  | .handle endpoint identifier replace enable =>
    let (gates, h) := request σ.bus.gates endpoint identifier replace enable
    some ⟨{ σ.bus with gates }, σ.handles ++ [h]⟩
  | .setScope scope => some { σ with bus := { σ.bus with gates := { σ.bus.gates with scope } } }
  | .activate active => some { σ with bus := { σ.bus with gates := { σ.bus.gates with active } } }
  | .enable place enabled => some (σ.through place fun gate => σ.bus.modifyGate gate fun g => { g with enabled })
  | .put place which value => some (σ.through place fun gate => σ.bus.putSignal (.ofGate gate which) value)
  | .receive s nonBlocking start =>
    let r := (s.receive nonBlocking σ.bus start).run start []
    match r.ending with
    | .done _ | .broken _ => some { σ with bus := r.bus }
    | .stuck => none
  | .act action => some { σ with bus := { σ.bus.act action with gates := σ.bus.gates } }

/-- Makes moves one after another. -/
def run [Clock] (σ : Harness) (moves : List Move) : Option Harness := moves.foldlM step σ

/-- What a test has asked for. -/
structure Asked where
  active : Bool := false
  scope : Option String := none
  requests : List Request := []

/-- What was asked for with one move more. -/
def Asked.note (asked : Asked) : Move → Asked
  | .handle endpoint identifier replace _ =>
    { asked with requests := asked.requests ++ [⟨(identifier <|> asked.scope).getD "", endpoint, replace⟩] }
  | .setScope scope => { asked with scope }
  | .activate active => { asked with active }
  | .enable .. | .put .. | .receive .. | .act _ => asked

/-- What is asked for in some moves. -/
def Asked.after (moves : List Move) : Asked := moves.foldl note {}

variable {σ τ : Harness} {asked : Asked} {move : Move} {moves : List Move}

/-! ## Moves -/

/-- The gates, and the handles of a test, are what the test has asked for. -/
structure Sound (asked : Asked) (σ : Harness) : Prop where
  active : σ.bus.gates.active = asked.active
  scope : σ.bus.gates.scope = asked.scope
  bindings : Bindings asked.requests σ.handles σ.bus.gates.bound σ.bus.gates.made.length

/-- A request finds a gate bound and changes nothing, or makes a gate that is not ready. -/
theorem request_cases (gs : Gates) (endpoint : String) (identifier : Option String) (replace : Bool)
    (enable : Option Bool) :
    let r : Request := ⟨(identifier <|> gs.scope).getD "", endpoint, replace⟩
    (∃ gate, gs.bound.lookup r.key = some gate ∧ replace = false
        ∧ request gs endpoint identifier replace enable = (gs, r.handle gate))
      ∨ ∃ f : Gate → Gate, (∀ g, (f g).ready = g.ready) ∧ (replace = true ∨ gs.bound.lookup r.key = none)
        ∧ request gs endpoint identifier replace enable =
          ((gs.make r.key).1.modify gs.made.length f, r.handle gs.made.length) := by
  intro r
  by_cases hr : replace = true ∨ gs.bound.lookup r.key = none
  -- A gate that is made and left alone counts as changed by the identity.
  · have hid : (gs.make r.key).1 = (gs.make r.key).1.modify gs.made.length id := by
      simp [Gates.modify]
    have hhandle : gs.handle endpoint identifier replace =
        ((gs.make r.key).1.modify gs.made.length id, r.handle gs.made.length) := by
      rw [← hid]
      exact Gates.handle_of_unbound hr
    cases enable with
    | none => exact .inr ⟨id, fun _ => rfl, hr, hhandle⟩
    | some enable =>
      cases replace with
      | false => exact .inr ⟨id, fun _ => rfl, hr, hhandle⟩
      | true => exact .inr ⟨fun g => { g with enabled := enable }, fun _ => rfl, hr, rfl⟩
  · obtain ⟨hreplace, hbound⟩ := not_or.mp hr
    obtain ⟨gate, hgate⟩ := Option.ne_none_iff_exists'.mp hbound
    cases replace with
    | true => exact absurd rfl hreplace
    | false =>
      -- Without replacing, what is said about enabling is not looked at.
      have hhandle := Gates.handle_of_bound hgate
      refine .inl ⟨gate, hgate, rfl, ?_⟩
      cases enable with
      | none => exact hhandle
      | some enable => exact hhandle

/-- A receive that does not get stuck met no gate, or came through one that was ready. -/
theorem receive_cases [Clock] {s : Subscriber} {nonBlocking : Bool} {start : Duration}
    (h : σ.step (.receive s nonBlocking start) = some τ) : τ.handles = σ.handles
      ∧ (σ.bus.gates.barring? s.endpoint = none ∧ τ.bus.gates = σ.bus.gates
        ∨ ∃ gate, σ.bus.gates.barring? s.endpoint = some gate ∧ (σ.bus.gates.get gate).ready = true
          ∧ τ.bus.gates = σ.bus.gates.modify gate Gate.passed) := by
  have hmeets := s.meets_barring nonBlocking σ.bus start
  have hτ : ((s.receive nonBlocking σ.bus start).run start []).ending ≠ .stuck
      ∧ τ = { σ with bus := ((s.receive nonBlocking σ.bus start).run start []).bus } := by
    rw [step] at h
    split at h
    · rename_i hending
      cases h
      rw [hending]
      exact ⟨nofun, rfl⟩
    · rename_i hending
      cases h
      rw [hending]
      exact ⟨nofun, rfl⟩
    · cases h
  obtain ⟨hending, rfl⟩ := hτ
  refine ⟨rfl, ?_⟩
  -- A gate that was not ready would have held the receive up for good.
  cases hbarring : σ.bus.gates.barring? s.endpoint with
  | none => exact .inl ⟨rfl, (hmeets.free hbarring).2.1⟩
  | some gate =>
    cases hready : (σ.bus.gates.get gate).ready with
    | true => exact .inr ⟨gate, rfl, hready, (hmeets.ready gate hbarring hready).2.1⟩
    | false =>
      rw [hmeets.shut gate hbarring hready] at hending
      exact absurd rfl hending

theorem Sound.of_same (hσ : Sound asked σ) (hhandles : τ.handles = σ.handles) (hgates : τ.bus.gates = σ.bus.gates) :
    Sound asked τ := by
  obtain ⟨hactive, hscope, hbindings⟩ := hσ
  rw [← hgates] at hactive hscope hbindings
  rw [← hhandles] at hbindings
  exact ⟨hactive, hscope, hbindings⟩

/-- What a gate is changed to makes no difference. -/
theorem Sound.of_modify (hσ : Sound asked σ) (hhandles : τ.handles = σ.handles) {gate : Nat} {f : Gate → Gate}
    (hgates : τ.bus.gates = σ.bus.gates.modify gate f) : Sound asked τ where
  active := by
    rw [hgates]
    exact hσ.active
  scope := by
    rw [hgates]
    exact hσ.scope
  bindings := by
    rw [hgates, hhandles, Gates.length_made_modify]
    exact hσ.bindings

/-- Changing what a gate signals changes neither which gates there are nor who bars what. -/
theorem Sound.through (hσ : Sound asked σ) (place : Nat) (f : Gate → Gate) :
    Sound asked (σ.through place fun gate => σ.bus.modifyGate gate f) := by
  rw [Harness.through]
  cases σ.handles[place]? with
  | none => exact hσ
  | some h => exact hσ.of_modify rfl rfl

/-- One move: what was asked for so far tells which handles there are and which gates bar. -/
theorem Sound.step [Clock] (hσ : Sound asked σ) (h : σ.step move = some τ) : Sound (asked.note move) τ := by
  cases move with
  | handle endpoint identifier replace enable =>
    have hcases := request_cases σ.bus.gates endpoint identifier replace enable
    rw [hσ.scope] at hcases
    -- The request shares a gate with an earlier handle, or has one of its own, of the next number.
    rcases hcases with ⟨gate, hbound, hreplace, hrequest⟩ | ⟨f, -, hr, hrequest⟩
    · rw [Harness.step, hrequest] at h
      cases h
      exact ⟨hσ.active, hσ.scope, hσ.bindings.share hbound hreplace⟩
    · rw [Harness.step, hrequest] at h
      cases h
      refine ⟨hσ.active, hσ.scope, ?_⟩
      rw [Gates.length_made_modify, Gates.length_made_make]
      exact Bindings.make hσ.bindings hr
  | setScope scope =>
    cases h
    exact ⟨hσ.active, rfl, hσ.bindings⟩
  | activate active =>
    cases h
    exact ⟨rfl, hσ.scope, hσ.bindings⟩
  | enable place enabled =>
    cases h
    exact hσ.through place _
  | put place which value =>
    cases h
    exact hσ.through place fun g => g.put which value
  | receive s nonBlocking start =>
    rcases receive_cases h with ⟨hhandles, ⟨-, hgates⟩ | ⟨gate, -, -, hgates⟩⟩
    · exact hσ.of_same hhandles hgates
    · exact hσ.of_modify hhandles hgates
  | act action =>
    cases h
    exact hσ.of_same rfl rfl

theorem run_cons_eq_some_iff [Clock] :
    σ.run (move :: moves) = some τ ↔ ∃ ρ, σ.step move = some ρ ∧ ρ.run moves = some τ := by
  rw [run, List.foldlM_cons, Option.bind_eq_bind, Option.bind_eq_some_iff]
  rfl

/-- Any moves: the handles and the gates that bar follow from what was asked for. -/
theorem sound_of_run [Clock] (hσ : Sound asked σ) (h : σ.run moves = some τ) :
    Sound (moves.foldl Asked.note asked) τ := by
  induction moves generalizing σ asked with
  | nil =>
    cases h
    exact hσ
  | cons move moves ih =>
    obtain ⟨ρ, hstep, hrest⟩ := run_cons_eq_some_iff.mp h
    exact ih (hσ.step hstep) hrest

/-! ## Counting -/

/-- How many of some moves, as far as they can be made, are of a kind. -/
def tally [Clock] (kind : Harness → Move → Bool) (σ : Harness) : List Move → Nat
  | [] => 0
  | move :: moves =>
    match σ.step move with
    | some τ => (kind σ move).toNat + tally kind τ moves
    | none => 0

/-- The move is a receive that comes to a gate. -/
def comesTo (gate : Nat) (σ : Harness) : Move → Bool
  | .receive s _ _ => σ.bus.gates.barring? s.endpoint = some gate
  | _ => false

/-- The move makes a gate ready. -/
def readies (gate : Nat) (σ : Harness) : Move → Bool
  | .put place .ready true => (σ.handles[place]?).map GateHandle.gate = some gate
  | _ => false

theorem ready_through_le {f : Gate → Gate} (hf : ∀ g, (f g).ready.toNat ≤ g.ready.toNat) (place gate : Nat) :
    ((σ.through place fun gate => σ.bus.modifyGate gate f).bus.gates.get gate).ready.toNat ≤
      (σ.bus.gates.get gate).ready.toNat := by
  rw [through]
  cases σ.handles[place]? with
  | none => exact Nat.le_refl _
  | some h => exact Gates.ready_modify_le hf _ _ _

theorem ready_put_le (place gate : Nat) :
    ((σ.through place fun gate => σ.bus.putSignal (.ofGate gate .ready) true).bus.gates.get gate).ready.toNat ≤
      (readies gate σ (.put place .ready true)).toNat + (σ.bus.gates.get gate).ready.toNat := by
  change _ ≤ (decide ((σ.handles[place]?).map GateHandle.gate = some gate)).toNat + _
  rw [through]
  cases σ.handles[place]? with
  | none => exact Nat.le_add_left _ _
  | some h =>
    by_cases heq : h.gate = gate
    · rw [Option.map_some, heq, decide_eq_true rfl]
      exact Nat.le_trans (Bool.toNat_le _) (Nat.le_add_right 1 _)
    · have hget : (σ.bus.putSignal (.ofGate h.gate .ready) true).gates.get gate = σ.bus.gates.get gate :=
        Gates.get_modify_of_ne heq _
      dsimp only
      rw [hget]
      exact Nat.le_add_left _ _

/-- A new gate is not ready, and the others are left as they are. -/
theorem ready_request_le (gs : Gates) (endpoint : String) (identifier : Option String) (replace : Bool)
    (enable : Option Bool) (gate : Nat) :
    ((request gs endpoint identifier replace enable).1.get gate).ready.toNat ≤ (gs.get gate).ready.toNat := by
  rcases request_cases gs endpoint identifier replace enable with ⟨_, -, -, hrequest⟩ | ⟨f, hf, -, hrequest⟩
  · exact Nat.le_of_eq (congrArg (fun result => (result.1.get gate).ready.toNat) hrequest)
  · rw [hrequest, ← gs.get_make _ gate]
    exact Gates.ready_modify_le (fun g => Nat.le_of_eq (congrArg Bool.toNat (hf g))) _ _ _

/-- A step makes a gate ready only if it sets that signal, and a receive that comes through takes it away. -/
theorem ready_step [Clock] (h : σ.step move = some τ) (gate : Nat) :
    (comesTo gate σ move).toNat + (τ.bus.gates.get gate).ready.toNat ≤
      (readies gate σ move).toNat + (σ.bus.gates.get gate).ready.toNat := by
  -- Only a receive comes to a gate, and only setting its signal makes a gate ready.
  have hquiet : ∀ {f : Gate → Gate} (place : Nat), (∀ g, (f g).ready.toNat ≤ g.ready.toNat) →
      0 + ((σ.through place fun gate => σ.bus.modifyGate gate f).bus.gates.get gate).ready.toNat ≤
        0 + (σ.bus.gates.get gate).ready.toNat :=
    fun place hf => Nat.add_le_add_left (ready_through_le hf place gate) 0
  cases move with
  | handle endpoint identifier replace enable =>
    cases h
    exact Nat.add_le_add_left (ready_request_le σ.bus.gates endpoint identifier replace enable gate) 0
  | setScope | activate | act =>
    cases h
    exact Nat.le_refl _
  | enable place enabled =>
    cases h
    exact hquiet place fun _ => Nat.le_refl _
  | put place which value =>
    cases h
    cases which with
    | called => exact hquiet place fun g => Nat.le_refl (g.put .called value).ready.toNat
    | ready =>
      cases value with
      | false => exact hquiet (f := fun g => g.put .ready false) place fun _ => Nat.zero_le _
      | true =>
        change 0 + _ ≤ _
        rw [Nat.zero_add]
        exact ready_put_le place gate
  | receive s nonBlocking start =>
    obtain ⟨-, ⟨hbarring, hgates⟩ | ⟨barring, hbarring, hready, hgates⟩⟩ := receive_cases h
    · change (decide (σ.bus.gates.barring? s.endpoint = some gate)).toNat + _ ≤ 0 + _
      rw [hbarring, hgates]
      exact Nat.le_refl _
    · change (decide (σ.bus.gates.barring? s.endpoint = some gate)).toNat + _ ≤ 0 + _
      rw [hbarring, hgates]
      by_cases heq : barring = gate
      · subst heq
        have hlt := Gates.lt_of_enabled (Gates.barring?_eq_some_iff.mp hbarring).2.2
        rw [Gates.get_modify_of_lt hlt, hready, decide_eq_true rfl]
        exact Nat.le_refl _
      · rw [Gates.get_modify_of_ne heq, decide_eq_false fun h => heq (Option.some.inj h)]
        exact Nat.le_refl _

/-- A gate lets no more receives through than it was made ready for, and one more if it is ready at the start. -/
theorem tally_comesTo_le [Clock] (σ : Harness) (moves : List Move) (gate : Nat) :
    σ.tally (comesTo gate) moves ≤ σ.tally (readies gate) moves + (σ.bus.gates.get gate).ready.toNat := by
  induction moves generalizing σ with
  | nil => exact Nat.zero_le _
  | cons move moves ih =>
    rw [tally, tally]
    cases hstep : σ.step move with
    | none => exact Nat.zero_le _
    | some τ =>
      have hready := ready_step hstep gate
      have hrest := ih τ
      dsimp only
      omega

/-! ## The gates of a test -/

/-- Whatever is changed through one of two handles is changed through the other. -/
def Shares (gs : Gates) (h h' : GateHandle) : Prop :=
  ∀ f, (gs.modify h.gate f).get h'.gate = f (gs.get h'.gate) ∧ (gs.modify h'.gate f).get h.gate = f (gs.get h.gate)

/-- Nothing that is changed through one of two handles is changed through the other. -/
def Apart (gs : Gates) (h h' : GateHandle) : Prop :=
  ∀ f, (gs.modify h.gate f).get h'.gate = gs.get h'.gate ∧ (gs.modify h'.gate f).get h.gate = gs.get h.gate

theorem shares_of_eq {gs : Gates} {h h' : GateHandle} (heq : h.gate = h'.gate) (hlt : h.gate < gs.made.length) :
    Shares gs h h' := by
  intro f
  rw [← heq]
  exact ⟨Gates.get_modify_of_lt hlt f, Gates.get_modify_of_lt hlt f⟩

theorem apart_of_ne {gs : Gates} {h h' : GateHandle} (hne : h.gate ≠ h'.gate) : Apart gs h h' :=
  fun f => ⟨Gates.get_modify_of_ne hne f, Gates.get_modify_of_ne hne.symm f⟩

/-- The handle whose gate holds receives on an endpoint up, by what was asked for: the last one that was made for the
scope and the endpoint, where gating is in use and its gate is enabled. -/
def governing? (σ : Harness) (asked : Asked) (endpoint : String) : Option GateHandle :=
  if asked.active then
    (lastHandle? σ.handles (asked.scope.getD "", endpoint)).filter fun h => (σ.bus.gates.get h.gate).enabled
  else none

/-- The gate that bars an endpoint is that of the handle requested last for its key. -/
theorem Sound.barring?_eq (hσ : Sound asked σ) (endpoint : String) :
    σ.bus.gates.barring? endpoint = (σ.governing? asked endpoint).map GateHandle.gate := by
  rw [Gates.barring?, governing?, hσ.active, hσ.scope, hσ.bindings.bound]
  split_ifs
  · rw [Option.filter_map]
    rfl
  · rfl

/-- Let a test begin without gates and make any moves; a receive that gets stuck would be the last of them. For each
request it has a handle for the endpoint and for the identifier asked for, or else the scope of that time. Two handles
have their signals and their being enabled in common where they are for the same, and no request for that after the
earlier one, up to the later one, was to replace; otherwise they have nothing in common. Where gating is in use and the
gate of the last handle for the scope and the endpoint is enabled, a receive meets that gate, and otherwise none. And no
more receives have come through a gate than it was made ready for. -/
theorem gates_of_moves [Clock] (b : Bus) (moves : List Move) (σ : Harness) (hfresh : b.gates = {})
    (hrun : (⟨b, []⟩ : Harness).run moves = some σ) :
    let asked := Asked.after moves
    σ.handles.map GateHandle.key = asked.requests.map Request.key
      ∧ (∀ i j h h', i ≤ j → σ.handles[i]? = some h → σ.handles[j]? = some h' →
        (Together asked.requests i j → Shares σ.bus.gates h h')
          ∧ (¬ Together asked.requests i j → Apart σ.bus.gates h h'))
      ∧ (∀ (s : Subscriber) nonBlocking now,
        s.Meets nonBlocking σ.bus now ((σ.governing? asked s.endpoint).map GateHandle.gate))
      ∧ ∀ gate, tally (comesTo gate) ⟨b, []⟩ moves ≤ tally (readies gate) ⟨b, []⟩ moves := by
  intro asked
  have hfirst : Sound {} ⟨b, []⟩ := by
    constructor
    case active => rw [hfresh]
    case scope => rw [hfresh]
    case bindings =>
      rw [hfresh]
      exact bindings_nil
  have hsound : Sound asked σ := sound_of_run hfirst hrun
  refine ⟨hsound.bindings.keys, ?_, ?_, ?_⟩
  · intro i j h h' hij hh hh'
    have hshared := hsound.bindings.shared hij hh hh'
    have hlt := hsound.bindings.lt_made h (List.mem_of_getElem? hh)
    exact ⟨fun htogether => shares_of_eq (hshared.mpr htogether) hlt,
      fun hapart => apart_of_ne fun heq => hapart (hshared.mp heq)⟩
  · intro s nonBlocking now
    rw [← hsound.barring?_eq]
    exact s.meets_barring nonBlocking σ.bus now
  · intro gate
    have hle := tally_comesTo_le ⟨b, []⟩ moves gate
    -- No gate is ready before it was made, so that what is made ready is an upper bound.
    have hready : (b.gates.get gate).ready = false := by
      rw [hfresh]
      rfl
    rw [hready] at hle
    exact hle

/-- A binding that is replaced and shared while another one is in force, and a receive that comes through. -/
def swapMoves : List Move :=
  [.handle "userFlag" none false none, .setScope (some "sim"), .handle "userFlag" none true (some true),
    .handle "userFlag" (some "") true (some true), .handle "userFlag" (some "") false (some false), .setScope none,
    .activate true, .put 3 .ready true, .receive ⟨0, "userFlag", none⟩ true .zero]

/-- The receive comes through the gate of the last two handles, of which the one has the other's gate; the first
handle was for the same, but its binding was replaced. -/
theorem gates_of_swapMoves : ∃ σ h₀ h₂ h₃, (⟨{}, []⟩ : Harness).run swapMoves = some σ
    ∧ σ.handles[0]? = some h₀ ∧ σ.handles[2]? = some h₂ ∧ σ.handles[3]? = some h₃
    ∧ Apart σ.bus.gates h₀ h₂ ∧ Shares σ.bus.gates h₂ h₃
    ∧ σ.governing? (Asked.after swapMoves) "userFlag" = some h₃
    ∧ tally (comesTo h₃.gate) ⟨{}, []⟩ swapMoves = 1 ∧ 1 ≤ tally (readies h₃.gate) ⟨{}, []⟩ swapMoves := by
  have hreached : ∃ σ h₀ h₂ h₃, (⟨{}, []⟩ : Harness).run swapMoves = some σ
      ∧ σ.handles[0]? = some h₀ ∧ σ.handles[2]? = some h₂ ∧ σ.handles[3]? = some h₃
      ∧ σ.governing? (Asked.after swapMoves) "userFlag" = some h₃
      ∧ tally (comesTo h₃.gate) ⟨{}, []⟩ swapMoves = 1 :=
    ⟨_, _, _, _, rfl, rfl, rfl, rfl, rfl, rfl⟩
  obtain ⟨σ, h₀, h₂, h₃, hrun, hh₀, hh₂, hh₃, hgoverning, htally⟩ := hreached
  obtain ⟨-, hshared, -, hcounts⟩ := gates_of_moves {} swapMoves σ rfl hrun
  have hapart : ¬ Together (Asked.after swapMoves).requests 0 2 := by
    rintro ⟨first, second, ⟨⟩, ⟨⟩, -, hnone⟩
    cases hnone 2 _ (by decide) (by decide) rfl rfl
  have htogether : Together (Asked.after swapMoves).requests 2 3 := by
    refine ⟨_, _, rfl, rfl, rfl, fun k r hk hk' hr _ => ?_⟩
    obtain rfl : k = 3 := by omega
    cases hr
    rfl
  have hcount := hcounts h₃.gate
  rw [htally] at hcount
  exact ⟨σ, h₀, h₂, h₃, hrun, hh₀, hh₂, hh₃, (hshared 0 2 h₀ h₂ (by decide) hh₀ hh₂).2 hapart,
    (hshared 2 3 h₂ h₃ (by decide) hh₂ hh₃).1 htogether, hgoverning, htally, hcount⟩

end Harness

end TopicHealth
