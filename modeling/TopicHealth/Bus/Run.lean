import TopicHealth.Bus.Call

/-!
# Runs

A call runs while others change the bus. A script says what they do and when; time jumps from one event to the
next. A run ends when the call does, or is stuck when the call waits for what never comes.
-/

namespace TopicHealth

/-- Something that others do to the bus, at an instant or once nothing else can happen. -/
structure Deed where
  time : Option Duration
  act : Bus → Bus

/-- What others do to the bus, in order. -/
abbrev Script := List Deed

/-- Lets time pass until a wait is over, with the deeds of a script that come before. None if it is never over. -/
def Wait.pass (reason : Wait) (bus : Bus) (now : Duration) (script : Script) : Option (Bus × Duration × Script) :=
  if reason.isOver bus now then some (bus, now, script)
  else
    match script with
    | [] => reason.deadline?.map fun t => (bus, t, [])
    | deed :: rest =>
      match reason.deadline?, deed.time with
      | some t, some u =>
        if u ≤ t then reason.pass (deed.act bus) (if now ≤ u then u else now) rest else some (bus, t, script)
      | some t, none => some (bus, t, script)
      | none, some u => reason.pass (deed.act bus) (if now ≤ u then u else now) rest
      | none, none => reason.pass (deed.act bus) now rest

/-- How a run ends. -/
inductive Ending (α : Type) where
  | done (value : α)
  | broken (reason : Breakdown)
  | stuck

/-- What a run leaves: the bus, the instant, the notices of the call, the deeds still to come, and how it ended. -/
structure Run (α : Type) where
  bus : Bus
  now : Duration
  notices : List Notice
  script : Script
  ending : Ending α

/-- Runs a call from an instant on. -/
def Call.run {α : Type} (now : Duration) (script : Script) : Call α → Run α
  | .done bus notices value => ⟨bus, now, notices, script, .done value⟩
  | .broken bus notices reason => ⟨bus, now, notices, script, .broken reason⟩
  | .wait bus notices reason resume =>
    match reason.pass bus now script with
    | none => ⟨bus, now, notices, script, .stuck⟩
    | some (bus, now, script) =>
      let rest := (resume bus now).run now script
      { rest with notices := notices ++ rest.notices }

end TopicHealth
