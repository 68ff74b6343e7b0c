/-!
# Gates

Receives can be held up for a test. A gate belongs to an endpoint and an identifier. While gating is active, a
receive on an endpoint meets the enabled gate that is bound to the current scope: it sets `called` and goes on
once `ready` is set, which it then clears. Binding anew with `replace` leaves older handles with their old gate.
-/

namespace TopicHealth

/-- The state that the handles of a gate share. -/
structure Gate where
  enabled : Bool := false
  called : Bool := false
  ready : Bool := false
deriving DecidableEq, Repr, Inhabited

/-- The two signals of a gate. -/
inductive Gate.Signal where
  | called
  | ready
deriving DecidableEq, Repr

/-- Whether a signal is set. -/
def Gate.isSet (g : Gate) : Gate.Signal → Bool
  | .called => g.called
  | .ready => g.ready

/-- Sets or clears a signal. -/
def Gate.put (g : Gate) (signal : Gate.Signal) (value : Bool) : Gate :=
  match signal with
  | .called => { g with called := value }
  | .ready => { g with ready := value }

/-- A test's grip on a gate. -/
structure GateHandle where
  endpoint : String
  identifier : String
  /-- The number of the gate, in the order in which gates were made. -/
  gate : Nat
deriving DecidableEq, Repr

/-- All gates, and which of them are bound to an identifier and an endpoint. -/
structure Gates where
  active : Bool := false
  /-- The identifier that receives, and handles without one of their own, use. -/
  scope : Option String := none
  made : List Gate := []
  bound : List ((String × String) × Nat) := []

namespace Gates

/-- The gate of a number. -/
def get (gs : Gates) (gate : Nat) : Gate := gs.made[gate]?.getD {}

/-- Changes a gate. -/
def modify (gs : Gates) (gate : Nat) (f : Gate → Gate) : Gates :=
  { gs with made := gs.made.modify gate f }

/-- Makes a gate and binds it. -/
def make (gs : Gates) (key : String × String) : Gates × Nat :=
  ({ gs with made := gs.made ++ [{}], bound := (key, gs.made.length) :: gs.bound }, gs.made.length)

/-- A handle on the gate bound to an endpoint and an identifier, the scope's when none is given. A gate is made if
there is none, or if it is to be replaced. -/
def handle (gs : Gates) (endpoint : String) (identifier : Option String) (replace : Bool) : Gates × GateHandle :=
  let identifier := (identifier <|> gs.scope).getD ""
  let key := (identifier, endpoint)
  match replace, gs.bound.lookup key with
  | false, some gate => (gs, ⟨endpoint, identifier, gate⟩)
  | _, _ =>
    let (gs, gate) := gs.make key
    (gs, ⟨endpoint, identifier, gate⟩)

/-- A handle whose gate, if replaced, is enabled or not as asked. -/
def handleWith (gs : Gates) (endpoint : String) (identifier : Option String) (replace enable : Bool) :
    Gates × GateHandle :=
  let (gs, h) := gs.handle endpoint identifier replace
  (if replace then gs.modify h.gate fun g => { g with enabled := enable } else gs, h)

/-- The gate that a receive on an endpoint has to pass. -/
def barring? (gs : Gates) (endpoint : String) : Option Nat :=
  if gs.active then
    (gs.bound.lookup (gs.scope.getD "", endpoint)).filter fun gate => (gs.get gate).enabled
  else none

end Gates

end TopicHealth
