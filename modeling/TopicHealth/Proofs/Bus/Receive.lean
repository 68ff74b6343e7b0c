import TopicHealth.Bus.Poller
import TopicHealth.Bus.Receive
import TopicHealth.Bus.Run
import TopicHealth.Proofs.Bus.Action

/-!
# Operations with nobody else at work

Where no gate is active a receive that does not wait is a function of the bus, and where nobody else is at work a
poll ends at its deadline.

* `Subscriber.receive_now`: a receive takes the oldest message.
* `Poller.run_poll`: when a poll returns, with what, and what comes after it.
-/

namespace TopicHealth

/-! ## Calls -/

namespace Call

variable {α : Type}

theorem after_nil (call : Call α) : call.after [] = call := by
  cases call <;> rfl

theorem run_after (earlier : List Notice) (call : Call α) (now : Duration) (script : Script) :
    (call.after earlier).run now script =
      { call.run now script with notices := earlier ++ (call.run now script).notices } := by
  cases call with
  | done | broken => rfl
  | wait bus notices reason resume =>
    simp only [after, run]
    cases reason.pass bus now script with
    | none => rfl
    | some next => simp

theorem after_done (earlier : List Notice) (bus : Bus) (notices : List Notice) (value : α) :
    (done bus notices value).after earlier = done bus (earlier ++ notices) value := rfl

end Call

namespace Operation

variable {α β : Type}

/-- With nothing to wait for, one operation goes on where the other has come to. -/
theorem bind_of_done {first : Operation α} {next : α → Operation β} {bus bus' : Bus} {now : Duration}
    {notices : List Notice} {value : α} (h : first bus now = .done bus' notices value) :
    (first >>= next) bus now = (next value bus' now).after notices := by
  change (first bus now).bind now next = _
  rw [h]
  rfl

theorem bind_of_done_nil {first : Operation α} {next : α → Operation β} {bus bus' : Bus} {now : Duration} {value : α}
    (h : first bus now = .done bus' [] value) : (first >>= next) bus now = next value bus' now := by
  rw [bind_of_done h, Call.after_nil]

end Operation

/-! ## Queues -/

namespace Bus

variable {b : Bus}

theorem queue_of_reader? {s : Subscriber} {r : Reader} (h : b.reader? s.reader = some r) : b.queue s = r.queue := by
  rw [queue, h]
  rfl

theorem reader?_modifyReader (b : Bus) (d : Nat) (f : Reader → Reader) (hf : ∀ r, (f r).id = r.id) (id : Nat) :
    (b.modifyReader d f).reader? id = (b.reader? id).map fun r => if r.id = d then f r else r := by
  simp only [modifyReader, reader?, List.find?_map]
  congr 2
  funext r
  rw [Function.comp_apply]
  split_ifs
  · rw [hf]
  · rfl

/-- Readers that change what they hold are numbered as before. -/
theorem WellFormed.modifyReader (h : b.WellFormed) (d : Nat) {f : Reader → Reader} (hf : ∀ r, (f r).id = r.id) :
    (b.modifyReader d f).WellFormed := by
  have hids : (b.modifyReader d f).readers.map Reader.id = b.readers.map Reader.id := by
    rw [Bus.modifyReader, List.map_map]
    refine List.map_congr_left fun r _ => ?_
    rw [Function.comp_apply]
    split_ifs
    · exact hf r
    · rfl
  constructor
  · intro r hr
    have hid : r.id ∈ b.readers.map Reader.id := hids ▸ List.mem_map_of_mem hr
    obtain ⟨r', hr', heq⟩ := List.mem_map.mp hid
    rw [← heq]
    exact h.lt_serial r' hr'
  · rw [hids]
    exact h.nodup

/-- Taking a message changes the queue of one reader. -/
theorem reader?_take (b : Bus) (s : Subscriber) (id : Nat) :
    (b.take s).2.reader? id =
      (b.reader? id).map fun r => if r.id = s.reader then { r with queue := r.queue.tail } else r :=
  b.reader?_modifyReader s.reader (fun r => { r with queue := r.queue.tail }) (fun _ => rfl) id

/-- Taking a message leaves the queues of other readers alone. -/
theorem queue_take_ne {s t : Subscriber} (hne : t.reader ≠ s.reader) : (b.take s).2.queue t = b.queue t := by
  rw [queue, queue, reader?_take, Option.map_map]
  cases hr : b.reader? t.reader with
  | none => rfl
  | some r =>
    simp [id_of_reader? hr, hne]

variable {id : Nat} {ch : Channel} {conflate : Bool} {held : List Message} {sent : Option Message}

/-- A reader on a channel, with the messages that it holds. -/
def Queues (b : Bus) (id : Nat) (ch : Channel) (conflate : Bool) (held : List Message) : Prop :=
  ∃ r, b.reader? id = some r ∧ r.channel = ch ∧ r.conflate = conflate ∧ r.queue = held

namespace Queues

theorem queue_eq {s : Subscriber} (h : b.Queues s.reader ch conflate held) : b.queue s = held := by
  obtain ⟨r, hr, -, -, hqueue⟩ := h
  rw [queue_of_reader? hr, hqueue]

theorem lt_serial (h : b.Queues id ch conflate held) (hb : b.WellFormed) : id < b.serial := by
  obtain ⟨r, hr, -⟩ := h
  obtain ⟨hmem, rfl⟩ := hb.reader?_eq_some_iff.mp hr
  exact hb.lt_serial r hmem

/-- What others send on the channel is added, or takes the place of what is there. -/
theorem act (h : b.Queues id ch conflate held) (hb : b.WellFormed) {action : Action}
    (hother : action.reader? ≠ some id) :
    (b.act action).Queues id ch conflate
      ((action.sentOn ch).elim held fun m => if conflate then [m] else held ++ [m]) := by
  have hid := h.lt_serial hb
  obtain ⟨r, hr, rfl, rfl, rfl⟩ := h
  have hrid := id_of_reader? hr
  have hact : (b.act action).reader? id = some ((action.sentOn r.channel).elim r r.deliver) := by
    rw [hb.reader?_act hid, hr, Option.bind_some, Reader.act_of_reader?_ne (hrid ▸ hother)]
  refine ⟨_, hact, ?_⟩
  cases action.sentOn r.channel with
  | none => exact ⟨rfl, rfl, rfl⟩
  | some m => exact ⟨rfl, rfl, rfl⟩

/-- Taking a message leaves the others. -/
theorem take {s : Subscriber} (h : b.Queues s.reader ch conflate held) :
    (b.take s).2.Queues s.reader ch conflate held.tail := by
  obtain ⟨r, hr, rfl, rfl, rfl⟩ := h
  refine ⟨{ r with queue := r.queue.tail }, ?_, rfl, rfl, rfl⟩
  rw [reader?_take, hr, Option.map_some, if_pos (id_of_reader? hr)]

/-- Another subscriber of the reader changes nothing of what it holds. -/
theorem retain (h : b.Queues id ch conflate held) (hb : b.WellFormed) (s : Subscriber) :
    (b.act (.retain s)).Queues id ch conflate held := by
  have hid := h.lt_serial hb
  obtain ⟨r, hr, rfl, rfl, rfl⟩ := h
  have hact := hb.reader?_act hid (.retain s)
  rw [hr, Option.bind_some] at hact
  refine ⟨_, hact, ?_⟩
  split <;> exact ⟨rfl, rfl, rfl⟩

end Queues

/-- A subscription adds a reader that holds nothing. -/
theorem queues_subscribe (hb : b.WellFormed) (endpoint : String) {addr : String} {ip : IpAddress}
    (hip : IpAddress.parse? addr = some ip) (conflate : Bool) :
    (b.act (.subscribe endpoint addr conflate)).Queues b.serial ⟨ip, endpoint⟩ conflate [] := by
  refine ⟨⟨b.serial, ⟨ip, endpoint⟩, conflate, [], 1⟩, hb.reader?_added ?_, rfl, rfl, rfl⟩
  rw [added, hip]
  rfl

/-- A conflating reader on a channel, with the last message that was sent to it, or none. -/
def Holds (b : Bus) (id : Nat) (ch : Channel) (sent : Option Message) : Prop :=
  ∃ r, b.reader? id = some r ∧ r.channel = ch ∧ r.conflate = true ∧ r.queue = sent.toList

theorem holds_iff : b.Holds id ch sent ↔ b.Queues id ch true sent.toList := Iff.rfl

theorem Holds.queue {s : Subscriber} (h : b.Holds s.reader ch sent) : b.queue s = sent.toList :=
  (holds_iff.mp h).queue_eq

/-- What others send on the channel takes the place of what is there. -/
theorem Holds.act (h : b.Holds id ch sent) (hb : b.WellFormed) {action : Action} (hother : action.reader? ≠ some id) :
    (b.act action).Holds id ch ((action.sentOn ch).or sent) := by
  have hact := (holds_iff.mp h).act hb hother
  rw [holds_iff]
  cases hsent : action.sentOn ch with
  | none =>
    rw [hsent] at hact
    exact hact
  | some m =>
    rw [hsent] at hact
    exact hact

/-- Taking the message leaves nothing. -/
theorem Holds.take {s : Subscriber} (h : b.Holds s.reader ch sent) : (b.take s).2.Holds s.reader ch none := by
  have htake := (holds_iff.mp h).take
  rw [holds_iff]
  cases sent <;> exact htake

/-- Another subscriber of the reader changes nothing of what it holds. -/
theorem Holds.retain (h : b.Holds id ch sent) (hb : b.WellFormed) (s : Subscriber) :
    (b.act (.retain s)).Holds id ch sent :=
  holds_iff.mpr ((holds_iff.mp h).retain hb s)

theorem holds_subscribe (hb : b.WellFormed) (endpoint : String) {addr : String} {ip : IpAddress}
    (hip : IpAddress.parse? addr = some ip) :
    (b.act (.subscribe endpoint addr true)).Holds b.serial ⟨ip, endpoint⟩ none :=
  queues_subscribe hb endpoint hip true

end Bus

/-! ## Receives -/

namespace Subscriber

variable {bus : Bus} {now : Duration}

/-- Where no gate bars the endpoint a receive is not held up. -/
theorem passGate_of_free {endpoint : String} (h : bus.gates.barring? endpoint = none) :
    passGate endpoint bus now = .done bus [] () := by
  have hlook : Operation.look (fun b => b.gates.barring? endpoint) bus now = .done bus [] none :=
    congrArg (Call.done bus []) h
  rw [passGate, Operation.bind_of_done_nil hlook]
  rfl

/-- Gates that are out of use bar nothing. -/
theorem passGate_of_inactive (endpoint : String) (h : bus.gates.active = false) :
    passGate endpoint bus now = .done bus [] () :=
  passGate_of_free (by simp [Gates.barring?, h])

/-- A receive that no gate holds up takes the oldest message, if there is one. -/
theorem receive_now [Clock] (s : Subscriber) (h : bus.gates.active = false) :
    s.receive true bus now = .done (bus.take s).2 [] (bus.queue s).head? := by
  rw [receive, Operation.bind_of_done_nil (passGate_of_inactive s.endpoint h)]
  rfl

theorem receiveOneOrNone_now [Clock] (s : Subscriber) (h : bus.gates.active = false) :
    s.receiveOneOrNone bus now = .done (bus.take s).2 [] (decodeOne (bus.queue s).head?) := by
  rw [receiveOneOrNone, Operation.bind_of_done_nil (s.receive_now h)]
  rfl

end Subscriber

/-! ## Polls -/

/-- A deadline that is not later than the start was for no time at all. -/
theorem Duration.eq_of_later?_le [Clock] {now span t : Duration} (h : now.later? span = some t) (hle : t ≤ now) :
    t = now := by
  have hsum := toNanos_add? (Option.eq_some_of_filter_eq_some h)
  apply toNanos_injective
  rw [le_def] at hle
  omega

namespace Poller

variable {α : Type} {p : Poller} {bus : Bus} {start : Duration}

/-- When a poll by itself returns, if it does: at once if there is a message, and else at its deadline. -/
def instant? [Clock] (p : Poller) (bus : Bus) (start timeout : Duration) : Option Duration :=
  if p.ready bus = [] then start.later? timeout else some start

/-- A message waits at a reader of the poller exactly when one of its subscribers is ready. -/
theorem any_unread_iff (h : bus.WellFormed) :
    (bus.readers.any fun r => p.readers.contains r.id && !r.queue.isEmpty) ↔ p.ready bus ≠ [] := by
  simp only [List.any_eq_true, Bool.and_eq_true, ne_eq, ready, List.filter_eq_nil_iff, not_forall, not_not,
    decide_eq_true_eq, List.contains_iff_mem, readers, List.mem_map]
  constructor
  · rintro ⟨r, hr, ⟨s, hs, hid⟩, hqueue⟩
    refine ⟨s, hs, ?_⟩
    rw [Bus.pending, Bus.queue_of_reader? (h.reader?_eq_some_iff.mpr ⟨hr, hid.symm⟩)]
    simpa [List.length_pos_iff] using hqueue
  · rintro ⟨s, hs, hpending⟩
    cases hr : bus.reader? s.reader with
    | none => simp [Bus.pending, Bus.queue, hr] at hpending
    | some r =>
      obtain ⟨hmem, hid⟩ := h.reader?_eq_some_iff.mp hr
      rw [Bus.pending, Bus.queue_of_reader? hr] at hpending
      exact ⟨r, hmem, ⟨s, hs, hid.symm⟩, by simpa [List.length_pos_iff] using hpending⟩

/-- A poll waits once, for its readers or for its deadline, and then looks which of them have messages. -/
theorem poll_eq [Clock] (p : Poller) (bus : Bus) (start timeout : Duration) :
    p.poll timeout bus start =
      if (Wait.unread p.readers (start.later? timeout)).isOver bus start then .done bus [] (p.ready bus)
      else .wait bus [] (.unread p.readers (start.later? timeout)) fun bus _ => .done bus [] (p.ready bus) := by
  have hdeadline : Operation.deadline (some timeout) bus start = .done bus [] (start.later? timeout) := rfl
  rw [poll, Operation.bind_of_done_nil hdeadline]
  change (Operation.await _ bus start).bind start _ = _
  unfold Operation.await
  split <;> rfl

/-- A poll by itself gives the subscribers with messages, for what comes after it to go on with; it is stuck where
there are none and the timeout ends beyond the clock. -/
theorem run_poll [Clock] (h : bus.WellFormed) (timeout : Duration) (next : List Subscriber → Operation α) :
    ((p.poll timeout >>= next) bus start).run start [] =
      match p.instant? bus start timeout with
      | some now => (next (p.ready bus) bus now).run now []
      | none => ⟨bus, start, [], [], .stuck⟩ := by
  have hunread := any_unread_iff (p := p) h
  have hover : (Wait.unread p.readers (start.later? timeout)).isOver bus start ↔
      p.ready bus ≠ [] ∨ ∃ t, start.later? timeout = some t ∧ t ≤ start := by
    simp only [Wait.isOver, Bool.or_eq_true, hunread, Option.any_eq_true, decide_eq_true_eq]
  have hpoll := poll_eq p bus start timeout
  -- Either the poll is over at once, or nothing is ready and only the deadline can end it.
  by_cases hend : (Wait.unread p.readers (start.later? timeout)).isOver bus start
  · rw [if_pos hend] at hpoll
    rw [Operation.bind_of_done_nil hpoll]
    have hinstant : p.instant? bus start timeout = some start := by
      unfold instant?
      split_ifs with hready
      · obtain hne | ⟨t, ht, hle⟩ := hover.mp hend
        · exact absurd hready hne
        · rw [ht, Duration.eq_of_later?_le ht hle]
      · rfl
    rw [hinstant]
  · rw [if_neg hend] at hpoll
    have hready : p.ready bus = [] := by
      by_contra hne
      exact hend (hover.mpr (.inl hne))
    change (Call.bind start next (p.poll timeout bus start)).run start [] = _
    rw [hpoll]
    simp only [Call.bind, Call.run, Wait.pass, hend, Bool.false_eq_true, if_false, Wait.deadline?, instant?, hready,
      if_true]
    cases start.later? timeout with
    | none => rfl
    | some t => simp [Call.after_nil, hready]

end Poller

end TopicHealth
