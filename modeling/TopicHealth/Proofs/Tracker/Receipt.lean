import TopicHealth.Proofs.Ring
import TopicHealth.Proofs.Tracker.Run

/-!
# Receipts

The receipts of a service are the messages of it that the ticks of a run take in. They decide everything that is
recorded of the service, the flags for the timing apart.

* `Recorded.record`: what one more message does to the record.
* `recorded_of_run`: after every run the status of a service records its receipts.
* `status_eq_last_receipt`: what that comes to, field by field.
-/

namespace TopicHealth.Tracker

/-- A message of a service that was taken in: at what time, in which tick, and the message. -/
structure Receipt where
  time : Duration
  frame : Int
  event : Event

/-- The receipts of a service in the order of the ticks, and in one tick in the order of its batch. -/
def receipts (s : Service) (ticks : List Tick) : List Receipt :=
  ticks.zipIdx.flatMap fun (tick, i) => (eventsOf s tick.batch).map fun e => ⟨tick.now, i, e⟩

/-- The times of some receipts, with the clock's origin in front. -/
def timePoints (receipts : List Receipt) : List Duration := .zero :: receipts.map Receipt.time

/-- The intervals between time points that follow each other, zero where the time goes back. -/
def intervals (points : List Duration) : List Duration :=
  points.zipWith (fun earlier later => later - earlier) points.tail

variable {c : Config} {p : Policy} {s : Service} {ticks : List Tick} {t : Tracker} {frame : Int}
  {received : List Receipt} {st : Status}

/-! ## Receipts of a run -/

theorem receipts_concat (s : Service) (ticks : List Tick) (tick : Tick) :
    receipts s (ticks ++ [tick]) =
      receipts s ticks ++ (eventsOf s tick.batch).map fun e => ⟨tick.now, ticks.length, e⟩ := by
  simp [receipts, List.zipIdx_append]

/-- A receipt has the time and the number of the tick that it came in. -/
theorem exists_tick_of_mem_receipts {r : Receipt} (h : r ∈ receipts s ticks) :
    ∃ (i : Nat) (tick : Tick), ticks[i]? = some tick ∧ r.time = tick.now ∧ r.frame = i := by
  obtain ⟨⟨tick, i⟩, htick, hr⟩ := List.mem_flatMap.mp h
  obtain ⟨e, -, rfl⟩ := List.mem_map.mp hr
  exact ⟨i, tick, List.mem_zipIdx_iff_getElem?.mp htick, rfl, rfl⟩

theorem frame_lt_of_mem_receipts {r : Receipt} (h : r ∈ receipts s ticks) : r.frame < ticks.length := by
  obtain ⟨i, tick, htick, -, hframe⟩ := exists_tick_of_mem_receipts h
  have hi : i < ticks.length := (List.getElem?_eq_some_iff.mp htick).1
  omega

/-! ## Intervals -/

theorem intervals_cons_cons (first second : Duration) (points : List Duration) :
    intervals (first :: second :: points) = (second - first) :: intervals (second :: points) := rfl

/-- One more time point adds the interval from the last one. -/
theorem intervals_concat (points : List Duration) (h : points ≠ []) (next : Duration) :
    intervals (points ++ [next]) = intervals points ++ [next - points.getLast h] := by
  induction points with
  | nil => exact absurd rfl h
  | cons first points ih =>
    cases points with
    | nil => rfl
    | cons second points =>
      have hrest := ih (List.cons_ne_nil second points)
      rw [List.cons_append, List.cons_append, intervals_cons_cons, intervals_cons_cons, ← List.cons_append, hrest,
        List.getLast_cons (List.cons_ne_nil second points)]
      rfl

theorem timePoints_ne_nil (received : List Receipt) : timePoints received ≠ [] := List.cons_ne_nil _ _

theorem getLast_timePoints (received : List Receipt) :
    (timePoints received).getLast (timePoints_ne_nil received) = received.getLast?.elim .zero Receipt.time := by
  cases received using List.reverseRecOn with
  | nil => rfl
  | append_singleton received r => simp [timePoints]

/-! ## Records -/

/-- A status records the receipts of a service, up to the tick of the given number: the last of them, and the
intervals of those that the history has room for. -/
structure Recorded (p : Policy) (s : Service) (frame : Int) (received : List Receipt) (st : Status) : Prop where
  updated : st.updated = true ↔ ∃ r, received.getLast? = some r ∧ r.frame = frame
  recvTime : st.recvTime = received.getLast?.elim .zero Receipt.time
  recvFrame : st.recvFrame = received.getLast?.elim 0 Receipt.frame
  logMonoTime : st.logMonoTime = received.getLast?.elim 0 fun r => r.event.logMonoTime
  valid : st.valid = received.getLast?.elim true fun r => r.event.valid || p.ignoreValid.contains s
  payload : st.payload = received.getLast?.elim (Payload.blank s 0) fun r => r.event.payload
  history : st.history.toList = (intervals (timePoints received)).rtake historyCapacity

theorem recorded_initial (p : Policy) (s : Service) (frame : Int) : Recorded p s frame [] (Status.initial s) := by
  constructor <;> simp [Status.initial, timePoints, intervals, Ring.toList_empty]

theorem Policy.record_eq (p : Policy) (s : Service) (st : Status) (now : Duration) (frame : Int) (e : Event) :
    p.record s st now frame e =
      { st.record now frame e with valid := e.valid || p.ignoreValid.contains s } := by
  rw [Policy.record]
  cases p.ignoreValid.contains s <;> simp [Status.record]

/-- One more message. -/
theorem Recorded.record (h : Recorded p s frame received st) (now : Duration) (e : Event) :
    Recorded p s frame (received ++ [⟨now, frame, e⟩]) (p.record s st now frame e) := by
  rw [Policy.record_eq]
  constructor
  case updated => simp [Status.record]
  case recvTime => simp [Status.record]
  case recvFrame => simp [Status.record]
  case logMonoTime => simp [Status.record]
  case valid => simp
  case payload => simp [Status.record]
  case history =>
    -- The last receipt is where the interval starts.
    have hpoints : timePoints (received ++ [⟨now, frame, e⟩]) = timePoints received ++ [now] := by
      simp [timePoints]
    have hlast : (timePoints received).getLast (timePoints_ne_nil received) = st.recvTime := by
      rw [getLast_timePoints, h.recvTime]
    rw [hpoints, intervals_concat _ (timePoints_ne_nil received), hlast]
    exact Ring.toList_push_of_eq_rtake h.history _

/-- The messages of one tick, in order. -/
theorem Recorded.recordAll (h : Recorded p s frame received st) (now : Duration) (events : List Event) :
    Recorded p s frame (received ++ events.map fun e => ⟨now, frame, e⟩) (p.recordAll s now frame events st) := by
  induction events generalizing received st with
  | nil => simpa [Policy.recordAll] using h
  | cons e events ih =>
    -- The induction is on the messages left; the receipts so far and the status are open.
    have hrest := ih (h.record now e)
    rwa [List.append_assoc, List.singleton_append] at hrest

/-- A tick begins with nothing received in it. -/
theorem Recorded.idle (h : Recorded p s (frame - 1) received st) (hframe : ∀ r ∈ received, r.frame < frame) :
    Recorded p s frame received { st with updated := false } := by
  constructor
  case updated =>
    simp only [Bool.false_eq_true, false_iff]
    rintro ⟨r, hr, heq⟩
    have hlt := hframe r (List.mem_of_getLast? hr)
    omega
  case recvTime => exact h.recvTime
  case recvFrame => exact h.recvFrame
  case logMonoTime => exact h.logMonoTime
  case valid => exact h.valid
  case payload => exact h.payload
  case history => exact h.history

/-- Judging does not touch the record. -/
theorem Recorded.judge (h : Recorded p s frame received st) {now : Duration} {st' : Status}
    (hjudge : p.judge s st now = .ok st') : Recorded p s frame received st' := by
  obtain ⟨alive, freqOk, rfl⟩ := judge_eq_ok hjudge
  exact ⟨h.updated, h.recvTime, h.recvFrame, h.logMonoTime, h.valid, h.payload, h.history⟩

/-- The messages of a tick, before the flags are judged. -/
theorem Recorded.takeIn (h : Recorded p s (ticks.length - 1) (receipts s ticks) st) (tick : Tick) :
    Recorded p s ticks.length (receipts s (ticks ++ [tick]))
      (p.recordAll s tick.now ticks.length (eventsOf s tick.batch) { st with updated := false }) := by
  rw [receipts_concat]
  have hidle := h.idle fun r hr => frame_lt_of_mem_receipts hr
  exact hidle.recordAll tick.now (eventsOf s tick.batch)

/-- After every run the status of a service records its receipts. -/
theorem recorded_of_run (h : (ofConfig c).run ticks = .ok t) (hs : s ∈ c.services) :
    ∃ st, t.status? s = some st ∧ Recorded c.policy s (ticks.length - 1) (receipts s ticks) st := by
  -- The record is an invariant of the status of one service alone: blank before the first tick, kept by each.
  apply status_of_run (fun ticks st => Recorded c.policy s (ticks.length - 1) (receipts s ticks) st) _ _ h hs
  · exact recorded_initial _ _ _
  · intro ticks tick st st' hrecorded hadvance
    have hlength : ((ticks ++ [tick]).length : Int) - 1 = ticks.length := by
      simp
    rw [hlength]
    exact (hrecorded.takeIn tick).judge hadvance

/-- A run counts its ticks and keeps to the services of its configuration, and each status tells what the receipts of
its service were: the last of them, whether that came in the last tick, and the intervals of the last hundred. The
times may go back, and a service may have several messages in a batch. Before its first receipt the record of a
service is blank. -/
theorem status_eq_last_receipt (c : Config) (ticks : List Tick) (t : Tracker)
    (hrun : (ofConfig c).run ticks = .ok t) :
    t.frame = ticks.length - 1 ∧ t.services = c.services
      ∧ ∀ s ∈ c.services, ∃ st, t.status? s = some st
        ∧ st.history.toList = (intervals (timePoints (receipts s ticks))).rtake historyCapacity
        ∧ match (receipts s ticks).getLast? with
          | none => st.updated = false ∧ st.recvTime = .zero ∧ st.recvFrame = 0 ∧ st.logMonoTime = 0
              ∧ st.valid = true ∧ st.payload = Payload.blank s 0 ∧ st.history.toList = []
          | some r => (st.updated = true ↔ r.frame = ticks.length - 1) ∧ st.recvTime = r.time
              ∧ st.recvFrame = r.frame ∧ st.logMonoTime = r.event.logMonoTime
              ∧ st.valid = (r.event.valid || c.ignoreValid.contains s) ∧ st.payload = r.event.payload := by
  have hran := ran_of_run hrun
  refine ⟨hran.frame, hran.services, fun s hs => ?_⟩
  obtain ⟨st, hst, hrecorded⟩ := recorded_of_run hrun hs
  obtain ⟨hupdated, htime, hframe, hstamp, hvalid, hpayload, hhistory⟩ := hrecorded
  refine ⟨st, hst, hhistory, ?_⟩
  cases hlast : (receipts s ticks).getLast? with
  | none =>
    rw [hlast] at hupdated htime hframe hstamp hvalid hpayload
    have hnone : receipts s ticks = [] := List.getLast?_eq_none_iff.mp hlast
    -- Nothing was ever received, so the service was not updated in the last tick either.
    have hidle : st.updated = false := by
      rw [Bool.eq_false_iff, Ne, hupdated]
      rintro ⟨r, hr, -⟩
      cases hr
    have hempty : st.history.toList = [] := by
      rw [hhistory, hnone]
      rfl
    exact ⟨hidle, htime, hframe, hstamp, hvalid, hpayload, hempty⟩
  | some r =>
    rw [hlast] at hupdated htime hframe hstamp hvalid hpayload
    have hnow : st.updated = true ↔ r.frame = ticks.length - 1 := by
      rw [hupdated]
      constructor
      · rintro ⟨r', hr', heq⟩
        cases hr'
        exact heq
      · intro heq
        exact ⟨r, rfl, heq⟩
    exact ⟨hnow, htime, hframe, hstamp, hvalid, hpayload⟩

/-- Two services, one of them exempt from the validity check. -/
def jumpyConfig : Config := { services := [.carState, .userFlag], ignoreValid := [.carState] }

/-- Two messages in one tick, a tick back in time with a message of a service that is not tracked, and a silent
tick. -/
def jumpyTicks : List Tick :=
  [⟨.ofMillis 5000, [some ⟨7, true, .carState {}⟩, none, some ⟨8, false, .carState {}⟩]⟩,
    ⟨.ofMillis 3000, [some ⟨1, true, .modelV2 {}⟩, some ⟨9, false, .carState {}⟩]⟩,
    ⟨.ofMillis 4000, []⟩]

/-- The third message is what is left of the first service, held to be valid, and of the second there was none. -/
theorem status_of_jumpyTicks : ∃ t st flag, (ofConfig jumpyConfig).run jumpyTicks = .ok t ∧ t.frame = 2
    ∧ t.status? .carState = some st ∧ st.updated = false ∧ st.recvTime = .ofMillis 3000 ∧ st.recvFrame = 1
    ∧ st.logMonoTime = 9 ∧ st.valid = true ∧ st.history.toList = [.ofMillis 5000, .zero, .zero]
    ∧ t.status? .userFlag = some flag ∧ flag.recvTime = .zero ∧ flag.history.toList = [] := by
  have hgoes : ∃ t, (ofConfig jumpyConfig).run jumpyTicks = .ok t := ⟨_, rfl⟩
  obtain ⟨t, hrun⟩ := hgoes
  obtain ⟨hframe, -, hstatus⟩ := status_eq_last_receipt jumpyConfig jumpyTicks t hrun
  obtain ⟨st, hst, hhistory, hupdated, htime, hrecvFrame, hstamp, hvalid, -⟩ := hstatus .carState (by decide)
  obtain ⟨flag, hflag, hsilent, -, hnever, -⟩ := hstatus .userFlag (by decide)
  have hidle : st.updated = false := by
    rw [Bool.eq_false_iff, Ne, hupdated]
    decide
  have hgaps : (intervals (timePoints (receipts .carState jumpyTicks))).rtake historyCapacity =
      [.ofMillis 5000, .zero, .zero] := by
    decide
  rw [hgaps] at hhistory
  exact ⟨t, st, flag, hrun, hframe, hst, hidle, htime, hrecvFrame, hstamp, hvalid, hhistory, hflag, hnever, hsilent⟩

end TopicHealth.Tracker
