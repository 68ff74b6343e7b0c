import TopicHealth.Proofs.Aggregator.Update
import TopicHealth.Proofs.Bus.Traffic

/-!
# What receives take

With no gate in the way a receive takes the oldest message of its reader or comes to nothing, and an update takes one
for each subscriber that it reads. What is left of a queue follows from what was taken.

* `Subscriber.run_receive`: a receive by itself, blocking or not.
* `Aggregator.run_update_taken`: an update by itself, whatever subscribers it reads.
* `Aggregator.leads_taken`: the queues after some subscribers have received.
-/

namespace TopicHealth

/-! ## Receives -/

namespace Operation

variable {α : Type} {bus : Bus} {now : Duration}

/-- A wait by itself ends at once, at its deadline or never, and what comes after it finds the bus as it was. -/
theorem run_await_bind (reason : Wait) (next : Unit → Operation α) :
    ((await reason >>= next) bus now).run now [] =
      if reason.isOver bus now then (next () bus now).run now []
      else match reason.deadline? with
        | some t => (next () bus t).run t []
        | none => ⟨bus, now, [], [], .stuck⟩ := by
  split_ifs with hover
  · have hawait : await reason bus now = .done bus [] () := if_pos hover
    rw [bind_of_done_nil hawait]
  · have hawait : await reason bus now = .wait bus [] reason fun bus _ => .done bus [] () := if_neg hover
    change (Call.bind now next (await reason bus now)).run now [] = _
    rw [hawait]
    simp only [Call.bind, Call.run, Wait.pass_nil, if_neg hover]
    cases reason.deadline? with
    | none => rfl
    | some t => simp [Call.after_nil]

end Operation

namespace Subscriber

variable {bus : Bus} {start : Duration}

/-- A receive that no gate holds up gets the oldest message, or none if there is none, and takes it off the queue; or
it does not end and takes nothing. -/
theorem run_receive [Clock] (hungated : bus.gates.active = false) (s : Subscriber) (nonBlocking : Bool)
    (start : Duration) :
    let r := (s.receive nonBlocking bus start).run start []
    r.ending = .done (bus.queue s).head? ∧ r.bus = (bus.take s).2
      ∨ (∀ m, r.ending ≠ .done m) ∧ r.bus = bus := by
  intro r
  cases nonBlocking with
  | true =>
    left
    have hr : r = ((.done (bus.take s).2 [] (bus.queue s).head? : Call _).run start []) :=
      congrArg (Call.run start []) (s.receive_now hungated)
    rw [hr]
    exact ⟨rfl, rfl⟩
  | false =>
    have hr : r = ((s.deadline >>= fun deadline =>
        Operation.await (.unread [s.reader] deadline) >>= fun _ => s.takeNow) bus start).run start [] := by
      refine congrArg (Call.run start []) ?_
      rw [receive, Operation.bind_of_done_nil (passGate_of_inactive s.endpoint hungated)]
      rfl
    -- With a deadline that the clock can reach, or without one, the wait may end; otherwise the call breaks down.
    have hwait : ∀ deadline, s.deadline bus start = .done bus [] deadline →
        r.ending = .done (bus.queue s).head? ∧ r.bus = (bus.take s).2
          ∨ (∀ m, r.ending ≠ .done m) ∧ r.bus = bus := by
      intro deadline hdeadline
      rw [hr, Operation.bind_of_done_nil hdeadline, Operation.run_await_bind]
      split_ifs
      · exact .inl ⟨rfl, rfl⟩
      · cases deadline with
        | some t => exact .inl ⟨rfl, rfl⟩
        | none => exact .inr ⟨(fun m hm => by cases hm), rfl⟩
    cases htimeout : s.timeout with
    | none =>
      refine hwait none ?_
      rw [deadline, htimeout]
      rfl
    | some timeout =>
      cases hlater : start.later? timeout with
      | some t =>
        refine hwait (some t) ?_
        rw [deadline, htimeout]
        change (Operation.clock >>= _) bus start = _
        rw [Operation.bind_of_done_nil (rfl : Operation.clock bus start = .done bus [] start), hlater]
        rfl
      | none =>
        right
        have hbroken : s.deadline bus start = .broken bus [] .clockOverflow := by
          rw [deadline, htimeout]
          change (Operation.clock >>= _) bus start = _
          rw [Operation.bind_of_done_nil (rfl : Operation.clock bus start = .done bus [] start), hlater]
          rfl
        have hr' : r = ⟨bus, start, [], [], .broken .clockOverflow⟩ := by
          rw [hr]
          change (Call.bind start _ (s.deadline bus start)).run start [] = _
          rw [hbroken]
          rfl
        rw [hr']
        exact ⟨(fun m hm => by cases hm), rfl⟩

end Subscriber

/-! ## Updates -/

namespace Aggregator

variable {b : Bus}

/-- What some subscribers get one after another, each with its reader. -/
def takings : Bus → List Subscriber → List (Nat × Option Message)
  | _, [] => []
  | b, s :: rest => (s.reader, (b.take s).1) :: takings (b.take s).2 rest

/-- Receiving for some subscribers gives the events of what they get. -/
theorem receiveAll_eq_takings [Clock] (hungated : b.gates.active = false) (now : Duration) (subs : List Subscriber) :
    ∃ notices, receiveAll subs b now =
      .done (taken b subs) notices ((takings b subs).map fun t => t.2.bind decoded?) := by
  induction subs generalizing b with
  | nil => exact ⟨[], rfl⟩
  | cons s rest ih =>
    have hungated' : (b.take s).2.gates.active = false := hungated
    obtain ⟨notices, hrest⟩ := ih hungated'
    refine ⟨nextNotices b s ++ (notices ++ []), ?_⟩
    rw [receiveAll, Operation.bind_of_done (receive_now s hungated), Operation.bind_of_done hrest]
    rfl

/-- An update by itself is stuck in its poll, or takes what its subscribers get and makes a tick of it. -/
theorem run_update_taken [Clock] (hb : b.WellFormed) (hungated : b.gates.active = false) (a : Aggregator)
    (start timeout : Duration) :
    let r := (a.update timeout b start).run start []
    r.ending = .stuck ∧ r.bus = b
      ∨ (∃ now, r.ending = a.ended now ((takings b (a.read b)).filterMap fun t => t.2.bind decoded?))
        ∧ r.bus = taken b (a.read b) := by
  intro r
  have hr : r = _ := Poller.run_poll (p := a.poller) hb timeout
    fun ready => receiveAll (ready ++ a.nonPolled) >>= a.tick
  cases hinstant : a.poller.instant? b start timeout with
  | none =>
    rw [hinstant] at hr
    left
    rw [hr]
    exact ⟨rfl, rfl⟩
  | some now =>
    rw [hinstant] at hr
    right
    obtain ⟨notices, hreceived⟩ := receiveAll_eq_takings hungated now (a.read b)
    obtain ⟨notices', htick⟩ :=
      run_tick a ((takings b (a.read b)).map fun t => t.2.bind decoded?) (taken b (a.read b)) now
    rw [List.filterMap_map] at htick
    -- What the poll left over is taken, and the batch is judged at the instant at which the poll ended.
    have hr' : r = { Run.mk (taken b (a.read b)) now notices' []
        (a.ended now ((takings b (a.read b)).filterMap fun t => t.2.bind decoded?)) with
          notices := notices ++ notices' } := by
      rw [hr]
      change ((receiveAll (a.read b) >>= a.tick) b now).run now [] = _
      rw [Operation.bind_of_done hreceived, Call.run_after, htick]
      rfl
    rw [hr']
    exact ⟨⟨now, rfl⟩, rfl⟩

/-- An update that makes a tick is not stuck. -/
theorem ended_ne_stuck (a : Aggregator) (now : Duration) (batch : List Event) : a.ended now batch ≠ .stuck := by
  intro hstuck
  rw [ended] at hstuck
  split at hstuck <;> cases hstuck

/-! ## Queues -/

/-- What a reader is left with when some subscribers have received. -/
theorem leads_taken (hb : b.WellFormed) {subs : List Subscriber} {r' : Reader} (hr' : r' ∈ (taken b subs).readers) :
    ∃ r ∈ b.readers, r.id = r'.id ∧ r.channel = r'.channel ∧ r.conflate = r'.conflate
      ∧ Traffic.Leads r.conflate r.queue
        (((takings b subs).filter fun t => t.1 = r.id).map fun t => .received t.2) r'.queue := by
  induction subs generalizing b with
  | nil => exact ⟨r', hr', rfl, rfl, rfl, .nothing⟩
  | cons s rest ih =>
    obtain ⟨r₁, hr₁, hid, hch, hconflate, hleads⟩ := ih (hb.act (.take s)) hr'
    obtain ⟨r, hr, rfl⟩ := List.mem_map.mp hr₁
    -- Whoever receives first takes the head of one queue; the rest is the induction.
    by_cases hrs : r.id = s.reader
    · rw [if_pos hrs] at hid hch hconflate hleads
      refine ⟨r, hr, hid, hch, hconflate, ?_⟩
      have hfound : b.reader? s.reader = some r := hb.reader?_eq_some_iff.mpr ⟨hr, hrs⟩
      have hgot : (b.take s).1 = r.queue.head? := congrArg List.head? (Bus.queue_of_reader? hfound)
      rw [takings, List.filter_cons_of_pos (by simpa using hrs.symm), List.map_cons, hgot]
      exact (Traffic.Leads.nothing.received).trans hleads
    · rw [if_neg hrs] at hid hch hconflate hleads
      refine ⟨r, hr, hid, hch, hconflate, ?_⟩
      rw [takings, List.filter_cons_of_neg (by simpa using Ne.symm hrs)]
      exact hleads

/-- A reader is left alone by those who receive from others. -/
theorem mem_readers_taken {subs : List Subscriber} {r : Reader} (hr : r ∈ b.readers)
    (hsubs : ∀ s ∈ subs, s.reader ≠ r.id) : r ∈ (taken b subs).readers := by
  induction subs generalizing b with
  | nil => exact hr
  | cons s rest ih =>
    obtain ⟨hs, hrest⟩ := List.forall_mem_cons.mp hsubs
    refine ih (List.mem_map.mpr ⟨r, hr, ?_⟩) hrest
    exact if_neg (Ne.symm hs)

theorem serial_taken (b : Bus) (subs : List Subscriber) : (taken b subs).serial = b.serial := by
  induction subs generalizing b with
  | nil => rfl
  | cons s rest ih => exact ih (b.take s).2

end Aggregator

end TopicHealth
