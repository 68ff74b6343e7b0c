import TopicHealth.Event
import TopicHealth.Notice
import TopicHealth.Ring
import TopicHealth.Service.Rate
import TopicHealth.Tracker.Config

/-!
# The status of a service

What a tracker knows about one service: its last message, when that came, the intervals between the last hundred
receipts, and the flags. `record` takes a message in and `judge` forms the two timing flags anew.
-/

namespace TopicHealth

/-- How many intervals are kept for the rate check. -/
def historyCapacity : Nat := 100

/-- What is known about one service. -/
structure Status where
  /-- A message came in the last tick. -/
  updated : Bool
  /-- When the last message came; zero if none has. -/
  recvTime : Duration
  /-- The tick in which the last message came. -/
  recvFrame : Int
  alive : Bool
  freqOk : Bool
  valid : Bool
  /-- The producer's time stamp of the last message. -/
  logMonoTime : UInt64
  payload : Payload
  /-- The intervals between the last receipts, the first of them counted from the clock's origin. -/
  history : Ring Duration historyCapacity

namespace Status

/-- The status before any message: a blank payload, valid, neither alive nor at its rate. -/
def initial (s : Service) : Status where
  updated := false
  recvTime := .zero
  recvFrame := 0
  alive := false
  freqOk := false
  valid := true
  logMonoTime := 0
  payload := Payload.blank s 0
  history := Ring.empty

/-- A receive time up to this long after the clock's origin counts as none. -/
def receiptThreshold : Duration := .ofNanos 10000

/-- Whether a message has come. -/
def hasReceived (st : Status) : Bool := receiptThreshold < st.recvTime

/-- Takes a message in. -/
def record (st : Status) (now : Duration) (frame : Int) (e : Event) : Status :=
  { st with
    updated := true
    history := (st.history.push (now - st.recvTime)).1
    recvTime := now
    recvFrame := frame
    logMonoTime := e.logMonoTime
    valid := e.valid
    payload := e.payload }

end Status

namespace Tracker

/-- Whether a policy holds a service to its rate: it has one, is polled, is exempt from neither timing check, and
has been heard from. -/
def Policy.rateCheckApplies (p : Policy) (s : Service) (st : Status) : Bool :=
  st.hasReceived && s.hasRate && !p.nonPolled.contains s && !p.ignoreAvgFreq.contains s
    && !p.ignoreAlive.contains s

/-- Takes a message in; a service exempt from the validity check stays valid. -/
def Policy.record (p : Policy) (s : Service) (st : Status) (now : Duration) (frame : Int) (e : Event) : Status :=
  let st := st.record now frame e
  if p.ignoreValid.contains s then { st with valid := true } else st

/-- Whether a service counts as alive at a time: its last receipt is younger than its window allows. -/
def Policy.aliveAt (p : Policy) (s : Service) (st : Status) (now : Duration) : Bool :=
  match s.maxAge? with
  | some maxAge => p.ignoreAlive.contains s || decide (now - st.recvTime < maxAge)
  | none => true

/-- Whether a service keeps its rate: the mean of the intervals kept is below its threshold. -/
def Policy.keepsRate (p : Policy) (s : Service) (st : Status) : Except Ring.MeanFault Bool :=
  match s.maxMean? with
  | some maxMean =>
    if p.rateCheckApplies s st then
      st.history.mean.map fun mean => mean.any fun mean => decide (mean < maxMean)
    else .ok true
  | none => .ok true

/-- Forms the timing flags of a service anew. -/
def Policy.judge (p : Policy) (s : Service) (st : Status) (now : Duration) : Except Ring.MeanFault Status :=
  (p.keepsRate s st).map fun freqOk => { st with alive := p.aliveAt s st now, freqOk }

end Tracker

/-- The notices that tell how the timing flags of a service changed. -/
def Status.changes (s : Service) (frame : Int) (before after : Status) : List Notice :=
  (if before.alive && !after.alive then [.notAlive s frame]
    else if !before.alive && after.alive then [.alive s frame] else [])
  ++ (if before.freqOk && !after.freqOk then [.belowRate s frame]
    else if !before.freqOk && after.freqOk then [.rateRecovered s frame] else [])

end TopicHealth
