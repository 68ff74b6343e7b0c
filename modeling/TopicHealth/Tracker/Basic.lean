import TopicHealth.Tracker.Status

/-!
# Trackers

A tracker holds the status of each tracked service and advances by ticks: a tick takes a batch of messages in and
then judges every service. A tick fails only when the intervals of a service add up to more than a duration
holds, which takes times that go back.
-/

namespace TopicHealth

/-- The statuses of the tracked services, in the order of the configuration. -/
structure Tracker where
  /-- The number of ticks so far, less one. -/
  frame : Int
  policy : Tracker.Policy
  entries : List (Service × Status)

namespace Tracker

/-- The tracker before the first tick. -/
def ofConfig (c : Config) : Tracker where
  frame := -1
  policy := c.policy
  entries := c.services.map fun s => (s, Status.initial s)

/-- The tracked services in order. -/
def services (t : Tracker) : List Service := t.entries.map (·.1)

/-- The status of a tracked service. -/
def status? (t : Tracker) (s : Service) : Option Status := t.entries.lookup s

/-- Whether a service is tracked. -/
def contains (t : Tracker) (s : Service) : Bool := (t.status? s).isSome

/-- Whether a service is tracked and waited for. -/
def isPolled (t : Tracker) (s : Service) : Bool := t.contains s && !t.policy.nonPolled.contains s

/-- Changes the status of a service. -/
def change (s : Service) (f : Status → Status) : List (Service × Status) → List (Service × Status)
  | [] => []
  | (r, st) :: rest => if r = s then (r, f st) :: rest else (r, st) :: change s f rest

/-- Takes the messages of a batch in, in order; one of a service that is not tracked is passed over. -/
def receive (p : Policy) (now : Duration) (frame : Int) :
    List Event → List (Service × Status) → List Notice × List (Service × Status)
  | [], entries => ([], entries)
  | e :: batch, entries =>
    let s := e.service
    match entries.lookup s with
    | some _ => receive p now frame batch (change s (fun st => p.record s st now frame e) entries)
    | none =>
      let (notices, entries) := receive p now frame batch entries
      (.untrackedMessage s frame :: notices, entries)

/-- Judges the services in order, up to the first whose mean interval cannot be formed. -/
def judge (p : Policy) (now : Duration) (frame : Int) :
    List (Service × Status) → List Notice × Except Ring.MeanFault (List (Service × Status))
  | [] => ([], .ok [])
  | (s, st) :: rest =>
    match p.judge s st now with
    | .error fault => ([], .error fault)
    | .ok after =>
      let (notices, rest) := judge p now frame rest
      (st.changes s frame after ++ notices, rest.map ((s, after) :: ·))

/-- One tick at a time `now`. The gaps in the batch are passed over. -/
def tick (t : Tracker) (now : Duration) (batch : List (Option Event)) :
    List Notice × Except Ring.MeanFault Tracker :=
  let frame := t.frame + 1
  let idle := t.entries.map fun (s, st) => (s, { st with updated := false })
  let (received, entries) := receive t.policy now frame (batch.filterMap id) idle
  let (judged, entries) := judge t.policy now frame entries
  (received ++ judged, entries.map fun entries => { t with frame, entries })

/-! ## Verdicts -/

/-- The services that a question is about: those given, or all tracked ones. -/
def selected (t : Tracker) (selection : Option (List Service)) : List Service :=
  selection.getD t.services

/-- The first service of a list that is not tracked or fails a test. -/
def firstFailing (t : Tracker) (test : Service → Status → Bool) (services : List Service) : Option Service :=
  services.find? fun s => !(t.status? s).any (test s)

/-- The first service that is held to be alive and is not. -/
def firstDead (t : Tracker) (selection : Option (List Service)) : Option Service :=
  t.firstFailing (fun _ st => st.alive) ((t.selected selection).filter fun s => !t.policy.ignoreAlive.contains s)

/-- The first service that is held to its rate and does not keep it. -/
def firstSlow (t : Tracker) (selection : Option (List Service)) : Option Service :=
  t.firstFailing (fun s st => !t.policy.rateCheckApplies s st || st.freqOk) (t.selected selection)

/-- The first service that is held to be valid and is not. -/
def firstInvalid (t : Tracker) (selection : Option (List Service)) : Option Service :=
  t.firstFailing (fun _ st => st.valid) ((t.selected selection).filter fun s => !t.policy.ignoreValid.contains s)

/-- Every selected service that is not exempt is alive. -/
def allAlive (t : Tracker) (selection : Option (List Service)) : Bool := (t.firstDead selection).isNone

/-- Every selected service that is not exempt keeps its rate. -/
def allFreqOk (t : Tracker) (selection : Option (List Service)) : Bool := (t.firstSlow selection).isNone

/-- The last message of every selected service that is not exempt was valid. -/
def allValid (t : Tracker) (selection : Option (List Service)) : Bool := (t.firstInvalid selection).isNone

/-- All three of the verdicts. -/
def allChecks (t : Tracker) (selection : Option (List Service)) : Bool :=
  t.allAlive selection && t.allFreqOk selection && t.allValid selection

/-- The notice that goes with a failed verdict: the service was not tracked. -/
def untrackedNotice (t : Tracker) : Option Service → List Notice
  | some s => if t.contains s then [] else [.checkedNotTracked s]
  | none => []

/-- The notices that go with asking for all three verdicts, which stops at the first that fails. -/
def checksNotices (t : Tracker) (selection : Option (List Service)) : List Notice :=
  match t.firstDead selection, t.firstSlow selection with
  | some s, _ => t.untrackedNotice (some s)
  | none, some s => t.untrackedNotice (some s)
  | none, none => t.untrackedNotice (t.firstInvalid selection)

end Tracker

end TopicHealth
