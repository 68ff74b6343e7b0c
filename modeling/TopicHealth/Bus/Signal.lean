import TopicHealth.Bus.Basic

/-!
# Signals

A signal is a flag that is set and cleared by hand and that can be waited on. A gate has two of them, and a test
can make others.
-/

namespace TopicHealth

/-- A flag to wait on. -/
inductive Signal where
  /-- A signal of its own, by its number. -/
  | free (number : Nat)
  /-- A signal of a gate. -/
  | ofGate (gate : Nat) (which : Gate.Signal)
deriving DecidableEq, Repr

namespace Bus

/-- Makes a signal, which is not set. -/
def makeSignal (b : Bus) : Bus × Signal :=
  ({ b with signals := b.signals ++ [false] }, .free b.signals.length)

/-- Whether a signal is set. -/
def isSet (b : Bus) : Signal → Bool
  | .free number => b.signals[number]?.getD false
  | .ofGate gate which => (b.gates.get gate).isSet which

/-- Sets or clears a signal. -/
def putSignal (b : Bus) (signal : Signal) (value : Bool) : Bus :=
  match signal with
  | .free number => { b with signals := b.signals.set number value }
  | .ofGate gate which => { b with gates := b.gates.modify gate fun g => g.put which value }

/-- The place of the first signal that is set. -/
def firstSet (b : Bus) (signals : List Signal) : Option Nat := signals.findIdx? b.isSet

end Bus

end TopicHealth
