import TopicHealth.Bus.Call
import TopicHealth.Wire.Event

/-!
# Publisher sets

One publisher for each of some services, opened together or not at all, and the wait for their readers to catch
up. The wait looks at the readers, sleeps and looks again; `ReaderWait.verdict` says what it does at each look.
-/

namespace TopicHealth

/-- The publishers of some services. -/
structure PublisherSet where
  publishers : List (Service × Publisher)

namespace PublisherSet

/-- Why the publishers could not be opened. -/
structure OpenFault where
  service : Service
  fault : BusFault
deriving DecidableEq, Repr

/-- The texts of a fault, the outermost first. -/
def OpenFault.messages (f : OpenFault) : List String :=
  ["Failed to publish '" ++ f.service.name ++ "'", f.fault.message]

/-- Opens the publishers of the services that are not open yet. If one cannot be opened, those before it are
dropped again. -/
def openAll : List Service → List (Service × Publisher) → Bus → Outcome OpenFault PublisherSet
  | [], opened, b => ⟨b, [.publishersReady opened.length], .ok ⟨opened⟩⟩
  | s :: services, opened, b =>
    if (opened.lookup s).isSome then openAll services opened b
    else match b.openPublisher s.name with
      | ⟨b, notices, .error fault⟩ =>
        ⟨opened.foldl (fun b (_, p) => b.closePublisher p) b, notices, .error ⟨s, fault⟩⟩
      | ⟨b, notices, .ok p⟩ =>
        let rest := openAll services (opened ++ [(s, p)]) b
        { rest with notices := notices ++ rest.notices }

/-- Opens one publisher for each distinct service. -/
def «open» (b : Bus) (services : List Service) : Outcome OpenFault PublisherSet :=
  openAll services [] b

/-- Drops the publishers. -/
def close (ps : PublisherSet) (b : Bus) : Bus :=
  ps.publishers.foldl (fun b (_, p) => b.closePublisher p) b

/-- The services that are published, in the order in which they were opened. -/
def services (ps : PublisherSet) : List Service := ps.publishers.map (·.1)

/-- A service has no publisher in the set. -/
structure NotPublished where
  service : Service
deriving DecidableEq, Repr

def NotPublished.message (f : NotPublished) : String :=
  "Service '" ++ f.service.name ++ "' is not published by this PubMaster"

/-- The publisher of a service. -/
def publisher (ps : PublisherSet) (s : Service) : Except NotPublished Publisher :=
  match ps.publishers.lookup s with
  | some p => .ok p
  | none => .error ⟨s⟩

/-- Sends bytes as they are. -/
def sendRaw (ps : PublisherSet) (b : Bus) (s : Service) (m : Message) : Except NotPublished Bus :=
  (ps.publisher s).map fun p => b.send p m

/-- Sends the wire form of an event. -/
def send (ps : PublisherSet) (b : Bus) (s : Service) (e : Event) : Except NotPublished Bus :=
  ps.sendRaw b s e.encode

/-- Whether the readers of a service have received everything. -/
def allReadersUpdated (ps : PublisherSet) (b : Bus) (s : Service) : Except NotPublished Bool :=
  (ps.publisher s).map b.allReadersUpdated

end PublisherSet

/-! ## Waiting for readers -/

/-- How a wait for readers keeps time. -/
inductive ReaderWait where
  /-- The caller blocks until the deadline, or without end when there is none, and sleeps between two looks for the
  interval at most. -/
  | blocking (deadline : Option Duration) (interval : Duration)
  /-- The caller is asynchronous and sleeps between two looks for the default interval at most. -/
  | asynchronous (deadline : Duration)

namespace ReaderWait

variable [Clock]

/-- The interval of a wait that is given none. -/
def defaultInterval : Duration := .ofMillis 50

/-- The wait that begins at an instant. A timeout that ends beyond the clock is without end. -/
def start (now timeout interval : Duration) : ReaderWait := .blocking (now.later? timeout) interval

/-- The wait of an asynchronous caller, who cannot wait beyond the end of the clock. -/
def startAsync (now timeout : Duration) : Except Breakdown ReaderWait :=
  match now.later? timeout with
  | some deadline => .ok (.asynchronous deadline)
  | none => .error .clockOverflow

/-- What a wait does after a look. -/
inductive Verdict where
  | updated
  | late
  | sleep (span : Duration)
deriving DecidableEq

/-- What a wait does after a look at an instant: it ends when the readers have caught up or no time is left, and
otherwise sleeps for what is left, at most for its interval. Where there is no deadline, it is the interval that is
left; an asynchronous caller looks at the deadline itself. -/
def verdict (w : ReaderWait) (updated : Bool) (now : Duration) : Verdict :=
  if updated then .updated
  else
    match w with
    | .blocking deadline interval =>
      let left := match deadline with
        | some deadline => deadline - now
        | none => interval
      if left.isZero then .late
      else .sleep (if interval ≤ left then interval else left)
    | .asynchronous deadline =>
      if deadline ≤ now then .late
      else .sleep (if defaultInterval ≤ deadline - now then defaultInterval else deadline - now)

/-- Looks and sleeps by turns until the wait ends, if a number of looks are enough for it to end. -/
def wait (w : ReaderWait) (updated : Bus → Bool) : Nat → Operation (Option Bool)
  | 0 => return none
  | looks + 1 => do
    match w.verdict (← Operation.look updated) (← Operation.clock) with
    | .updated => return some true
    | .late => return some false
    | .sleep span =>
      Operation.sleep span
      w.wait updated looks

end ReaderWait

namespace PublisherSet

variable [Clock]

/-- Waits for the readers of a service and reports if they do not catch up. -/
def awaitReaders (ps : PublisherSet) (s : Service) (timeout : Duration) (looks : Nat)
    (start : Duration → Except Breakdown ReaderWait) : Operation (Except NotPublished (Option Bool)) := do
  match ps.publisher s with
  | .error fault => return .error fault
  | .ok p =>
    match start (← Operation.clock) with
    | .error reason => Operation.fail reason
    | .ok w =>
      let result ← w.wait (fun b => b.allReadersUpdated p) looks
      if result = some false then Operation.report [.readersBehind s timeout]
      return .ok result

/-- Waits until the readers of a service have received everything, for at most the given span. Tells whether they
have, or nothing if a number of looks do not decide. -/
def waitForReaders (ps : PublisherSet) (s : Service) (timeout interval : Duration) (looks : Nat) :
    Operation (Except NotPublished (Option Bool)) :=
  ps.awaitReaders s timeout looks fun now => .ok (.start now timeout interval)

/-- The same for an asynchronous caller. -/
def waitForReadersAsync (ps : PublisherSet) (s : Service) (timeout : Duration) (looks : Nat) :
    Operation (Except NotPublished (Option Bool)) :=
  ps.awaitReaders s timeout looks fun now => ReaderWait.startAsync now timeout

end PublisherSet

end TopicHealth
