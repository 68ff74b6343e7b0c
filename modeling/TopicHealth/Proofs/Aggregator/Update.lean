import Mathlib.Data.List.Induction
import TopicHealth.Proofs.Aggregator.Open
import TopicHealth.Proofs.Tracker.Tick

/-!
# Updates of an aggregator

Between two updates of an aggregator others send messages, and come and go. An update makes a tick of the last
message that was sent on the channel of each service since the update before, whichever way the service is read.

* `run_update`: one update by itself, on a bus that feeds the aggregator.
* `feeding_steps`: along every run of moves the bus feeds the aggregator.
* `update_eq_tick_sent`: what each update of such a run comes to.
-/

namespace TopicHealth

/-! ## The order of receiving -/

namespace Tracker.Config

/-- The services that an aggregator waits for. -/
def polled (c : Config) : List Service := c.services.filter fun s => !c.isNonPolled s

/-- The services in the order in which a tick receives from them. -/
def readOrder (c : Config) : List Service := c.polled ++ c.policy.nonPolled

/-- A tick receives from every service, and twice from none. -/
theorem readOrder_perm (c : Config) : c.readOrder.Perm c.services := by
  have h := List.filter_append_perm (fun s => !c.isNonPolled s) c.services
  simpa [readOrder, polled, policy] using h

/-- The policy lists the services that the configuration takes off the poller. -/
theorem contains_nonPolled {c : Config} {s : Service} (h : s ∈ c.services) :
    c.policy.nonPolled.contains s = c.isNonPolled s := by
  rw [Bool.eq_iff_iff, List.contains_iff_mem, policy, List.mem_filter]
  exact and_iff_right h

end Tracker.Config

namespace Aggregator

variable {c : Tracker.Config} {ip : IpAddress} {sent : Channel → Option Message} {b : Bus} {a : Aggregator}

namespace Feeding

theorem mem_services (h : Feeding c ip sent b a) {p : Service × Subscriber} (hp : p ∈ a.subscribers) :
    p.1 ∈ c.services := by
  rw [← h.services]
  exact List.mem_map_of_mem hp

theorem polled_eq (h : Feeding c ip sent b a) :
    c.polled = (a.subscribers.filter fun p => !c.isNonPolled p.1).map (·.1) := by
  rw [Tracker.Config.polled, ← h.services, List.filter_map]
  rfl

theorem policy_nonPolled_eq (h : Feeding c ip sent b a) :
    c.policy.nonPolled = (a.subscribers.filter fun p => c.isNonPolled p.1).map (·.1) := by
  rw [Tracker.Config.policy, ← h.services, List.filter_map]
  rfl

/-- The subscribers of the polled services. -/
theorem poller_eq (h : Feeding c ip sent b a) :
    a.poller.subscribers = (a.subscribers.filter fun p => !c.isNonPolled p.1).map (·.2) := by
  rw [h.poller]
  congr 1
  refine List.filter_congr fun p hp => ?_
  rw [Tracker.Config.contains_nonPolled (h.mem_services hp)]

/-- The subscribers of the other services. -/
theorem nonPolled_eq (h : Feeding c ip sent b a) :
    a.nonPolled = (a.subscribers.filter fun p => c.isNonPolled p.1).map (·.2) := by
  have hkeys : (a.subscribers.map (·.1)).Nodup := by
    rw [h.services]
    exact h.nodup
  rw [nonPolled, h.policy, h.policy_nonPolled_eq, List.filterMap_map, ← List.filterMap_eq_map]
  refine List.filterMap_congr fun p hp => ?_
  exact lookup_of_mem hkeys (List.mem_of_mem_filter hp)

end Feeding

/-! ## Receiving -/

/-- The event of a message, if it decodes. -/
def decoded? (m : Message) : Option Event := (Event.decode m).toOption

/-- The event that a subscriber receives next. -/
def nextEvent? (bus : Bus) (s : Subscriber) : Option Event := (bus.queue s).head?.bind decoded?

/-- What is reported of the message that a subscriber receives next. -/
def nextNotices (bus : Bus) (s : Subscriber) : List Notice :=
  match Subscriber.decodeOne (bus.queue s).head? with
  | .ok _ => []
  | .error fault => [.undecodable s.endpoint fault.message]

/-- Without gates a receive takes the oldest message at once, and decodes it. -/
theorem receive_now [Clock] {bus : Bus} {now : Duration} (s : Subscriber) (h : bus.gates.active = false) :
    receive s bus now = .done (bus.take s).2 (nextNotices bus s) (nextEvent? bus s) := by
  rw [receive, Operation.bind_of_done_nil (s.receiveOneOrNone_now h), nextNotices, nextEvent?]
  cases (bus.queue s).head? with
  | none => rfl
  | some m =>
    rw [Option.bind_some, decoded?, Subscriber.decodeOne]
    cases Event.decode m <;> rfl

/-- The bus after a message was taken for each of some subscribers. -/
def taken (bus : Bus) (subs : List Subscriber) : Bus := bus.run (subs.map .take)

/-- Receiving for subscribers with readers of their own: what each gets was there before the first of them. -/
theorem receiveAll_now [Clock] {bus : Bus} {now : Duration} {subs : List Subscriber} (h : bus.gates.active = false)
    (hdistinct : (subs.map Subscriber.reader).Nodup) :
    receiveAll subs bus now =
      .done (taken bus subs) (subs.flatMap (nextNotices bus)) (subs.map (nextEvent? bus)) := by
  induction subs generalizing bus with
  | nil => rfl
  | cons s rest ih =>
    obtain ⟨hs, hrest⟩ := List.nodup_cons.mp hdistinct
    -- The first receive leaves the queues of the others as they were.
    have hgates : (bus.take s).2.gates.active = false := h
    have hqueue : ∀ t ∈ rest, (bus.take s).2.queue t = bus.queue t := by
      intro t ht
      refine Bus.queue_take_ne fun heq => hs ?_
      rw [← heq]
      exact List.mem_map_of_mem ht
    have hnotices : rest.flatMap (nextNotices (bus.take s).2) = rest.flatMap (nextNotices bus) := by
      refine List.flatMap_congr fun t ht => ?_
      rw [nextNotices, nextNotices, hqueue t ht]
    have hevents : rest.map (nextEvent? (bus.take s).2) = rest.map (nextEvent? bus) := by
      refine List.map_congr_left fun t ht => ?_
      rw [nextEvent?, nextEvent?, hqueue t ht]
    have hreceived := ih hgates hrest
    rw [hnotices, hevents] at hreceived
    rw [receiveAll, Operation.bind_of_done (receive_now s h), Operation.bind_of_done hreceived]
    simp [Pure.pure, Call.after_done, taken, Bus.run, Bus.act]

theorem wellFormed_taken {bus : Bus} (h : bus.WellFormed) (subs : List Subscriber) : (taken bus subs).WellFormed :=
  Bus.wellFormed_run _ h

theorem gates_taken (bus : Bus) (subs : List Subscriber) : (taken bus subs).gates = bus.gates := by
  induction subs generalizing bus with
  | nil => rfl
  | cons s rest ih => exact ih (bus.take s).2

/-- A reader that has been read, or held nothing, holds nothing after that. -/
theorem holds_taken {bus : Bus} {subs : List Subscriber} {id : Nat} {ch : Channel} {sent : Option Message}
    (hbus : bus.WellFormed) (h : bus.Holds id ch sent) (hread : id ∈ subs.map Subscriber.reader ∨ sent = none) :
    (taken bus subs).Holds id ch none := by
  -- Once the message is taken nothing is sent, so from there on the second alternative carries the induction.
  induction subs generalizing bus sent with
  | nil =>
    obtain hmem | rfl := hread
    · cases hmem
    · exact h
  | cons s rest ih =>
    by_cases hid : id = s.reader
    · subst hid
      exact ih (hbus.act (.take s)) h.take (.inr rfl)
    · have hother : (Bus.Action.take s).reader? ≠ some id := by
        intro heq
        exact hid (Option.some.inj heq).symm
      refine ih (hbus.act (.take s)) (h.act hbus hother) (hread.imp_left fun hmem => ?_)
      exact (List.mem_cons.mp hmem).resolve_left hid

/-! ## One update -/

/-- How an update ends that makes a tick of a batch. -/
def ended (a : Aggregator) (now : Duration) (batch : List Event) : Ending Aggregator :=
  match (a.tracker.tick now (batch.map some)).2 with
  | .ok tracker => .done { a with tracker }
  | .error .overflow => .broken .meanOverflow

theorem run_tick (a : Aggregator) (batch : List (Option Event)) (bus : Bus) (now : Duration) :
    ∃ notices, (a.tick batch bus now).run now [] = ⟨bus, now, notices, [], a.ended now (batch.filterMap id)⟩ := by
  rw [tick, ended, ← Tracker.tick_filterMap]
  split
  · rename_i notices tracker h
    rw [h]
    exact ⟨notices, rfl⟩
  · rename_i notices h
    rw [h]
    exact ⟨notices, rfl⟩

/-- The subscribers that an update receives from. -/
def read (a : Aggregator) (bus : Bus) : List Subscriber := a.poller.ready bus ++ a.nonPolled

/-- One update by itself: when it goes on, it takes the messages of the subscribers it reads and makes a tick of
those that decode. -/
theorem run_update_eq [Clock] (hb : b.WellFormed) (hungated : b.gates.active = false)
    (hdistinct : ((a.read b).map Subscriber.reader).Nodup) (start timeout : Duration) :
    ∃ notices, (a.update timeout b start).run start [] =
      match a.poller.instant? b start timeout with
      | some now =>
        ⟨taken b (a.read b), now, notices, [], a.ended now ((a.read b).filterMap (nextEvent? b))⟩
      | none => ⟨b, start, [], [], .stuck⟩ := by
  rw [update, Poller.run_poll hb]
  cases a.poller.instant? b start timeout with
  | none => exact ⟨[], rfl⟩
  | some now =>
    obtain ⟨notices, htick⟩ := run_tick a ((a.read b).map (nextEvent? b)) (taken b (a.read b)) now
    have hreceived : receiveAll (a.read b) b now = _ := receiveAll_now hungated hdistinct
    rw [List.filterMap_map] at htick
    refine ⟨(a.read b).flatMap (nextNotices b) ++ notices, ?_⟩
    change ((receiveAll (a.read b) >>= a.tick) b now).run now [] = _
    rw [Operation.bind_of_done hreceived, Call.run_after, htick]
    rfl

namespace Feeding

/-- The queue of a service is the last message that was sent on its endpoint, or empty. -/
theorem queue (h : Feeding c ip sent b a) {p : Service × Subscriber} (hp : p ∈ a.subscribers) :
    b.queue p.2 = (sent ⟨ip, p.1.name⟩).toList := (h.holds p hp).queue

/-- A poll wakes for the services for which something was sent. -/
theorem pending_pos_iff (h : Feeding c ip sent b a) {p : Service × Subscriber} (hp : p ∈ a.subscribers) :
    0 < b.pending p.2 ↔ sent ⟨ip, p.1.name⟩ ≠ none := by
  rw [Bus.pending, h.queue hp]
  cases sent ⟨ip, p.1.name⟩ <;> simp

/-- No polled service is ready exactly when nothing was sent to any of them. -/
theorem ready_eq_nil_iff (h : Feeding c ip sent b a) :
    a.poller.ready b = [] ↔ ∀ s ∈ c.polled, sent ⟨ip, s.name⟩ = none := by
  rw [Poller.ready, h.poller_eq, h.polled_eq, List.filter_eq_nil_iff, List.forall_mem_map, List.forall_mem_map]
  refine forall₂_congr fun p hp => ?_
  rw [decide_eq_true_iff, h.pending_pos_iff (List.mem_of_mem_filter hp), not_not]

/-- What is not read holds nothing. -/
theorem mem_read_or_none (h : Feeding c ip sent b a) {p : Service × Subscriber} (hp : p ∈ a.subscribers) :
    p.2.reader ∈ (a.read b).map Subscriber.reader ∨ sent ⟨ip, p.1.name⟩ = none := by
  by_cases hsent : sent ⟨ip, p.1.name⟩ = none
  · exact .inr hsent
  · left
    refine List.mem_map_of_mem ?_
    rw [read, List.mem_append, Poller.ready, h.poller_eq, h.nonPolled_eq, List.mem_filter]
    cases hkind : c.isNonPolled p.1 with
    | true =>
      refine .inr (List.mem_map_of_mem ?_)
      exact List.mem_filter.mpr ⟨hp, hkind⟩
    | false =>
      refine .inl ⟨List.mem_map_of_mem ?_, ?_⟩
      · exact List.mem_filter.mpr ⟨hp, by simp [hkind]⟩
      · exact decide_eq_true ((h.pending_pos_iff hp).mpr hsent)

/-- No reader is read twice. -/
theorem distinct_read (h : Feeding c ip sent b a) : ((a.read b).map Subscriber.reader).Nodup := by
  have hsplit := (List.filter_append_perm (fun p => !c.isNonPolled p.1) a.subscribers).map (·.2)
  have hall : ((a.subscribers.map (·.2)).map Subscriber.reader).Nodup := by
    rw [List.map_map]
    exact h.distinct
  have hnodup := (hsplit.map Subscriber.reader).nodup_iff.mpr hall
  simp only [List.map_append, Bool.not_not] at hnodup
  refine hnodup.sublist ?_
  rw [read, List.map_append, Poller.ready, h.poller_eq, h.nonPolled_eq]
  exact (List.filter_sublist.map _).append (List.Sublist.refl _)

/-- What is read is what was sent to the services, in the order of reading. -/
theorem events_read (h : Feeding c ip sent b a) :
    (a.read b).filterMap (nextEvent? b) =
      c.readOrder.filterMap fun s => (sent ⟨ip, s.name⟩).bind decoded? := by
  have hnext : ∀ p ∈ a.subscribers, nextEvent? b p.2 = (sent ⟨ip, p.1.name⟩).bind decoded? := by
    intro p hp
    rw [nextEvent?, h.queue hp]
    cases sent ⟨ip, p.1.name⟩ <;> rfl
  -- The poll passes over subscribers of which nothing would be received.
  have hready : ∀ subs : List Subscriber,
      (subs.filter fun s => 0 < b.pending s).filterMap (nextEvent? b) = subs.filterMap (nextEvent? b) := by
    intro subs
    rw [List.filterMap_filter]
    refine List.filterMap_congr fun s _ => ?_
    rw [Bus.pending, nextEvent?]
    cases b.queue s <;> simp
  rw [read, Tracker.Config.readOrder, Poller.ready, h.poller_eq, h.nonPolled_eq, h.polled_eq, h.policy_nonPolled_eq]
  simp only [List.filterMap_append, hready, List.filterMap_map]
  congr 1 <;> exact List.filterMap_congr fun p hp => hnext p (List.mem_of_mem_filter hp)

/-- After an update the queues are empty, and the bus goes on feeding the aggregator. -/
theorem taken (h : Feeding c ip sent b a) (tracker : Tracker) (htracker : tracker.policy = a.tracker.policy) :
    Feeding c ip (fun _ => none) (taken b (a.read b)) { a with tracker } := by
  constructor
  case wellFormed => exact wellFormed_taken h.wellFormed _
  case ungated =>
    rw [gates_taken]
    exact h.ungated
  case nodup => exact h.nodup
  case policy => exact htracker.trans h.policy
  case services => exact h.services
  case poller => exact h.poller
  case distinct => exact h.distinct
  case holds =>
    intro p hp
    exact holds_taken h.wellFormed (h.holds p hp) (h.mem_read_or_none hp)

end Feeding

/-- One update by itself, on a bus that feeds the aggregator: it is stuck, or goes on to a tick of what was sent. -/
theorem Feeding.run_update [Clock] (h : Feeding c ip sent b a) (start timeout : Duration) :
    ∃ notices, (a.update timeout b start).run start [] =
      match a.poller.instant? b start timeout with
      | some now =>
        ⟨Aggregator.taken b (a.read b), now, notices, [],
          a.ended now (c.readOrder.filterMap fun s => (sent ⟨ip, s.name⟩).bind decoded?)⟩
      | none => ⟨b, start, [], [], .stuck⟩ := by
  rw [← h.events_read]
  exact run_update_eq h.wellFormed h.ungated h.distinct_read start timeout

/-! ## Runs -/

/-- A move of a run: others do something to the bus, or the aggregator is updated at an instant. -/
inductive Move where
  | act (action : Bus.Action)
  | update (start timeout : Duration)

/-- The move concerns no subscriber of the aggregator, and does not hold receives up. -/
def Move.Foreign (a : Aggregator) : Move → Prop
  | .act action => action.Ungated ∧ ∀ p ∈ a.subscribers, action.reader? ≠ some p.2.reader
  | .update _ _ => True

/-- The message that a move sends on a channel. -/
def Move.sentOn (ch : Channel) : Move → Option Message
  | .act action => action.sentOn ch
  | .update _ _ => none

def Move.isUpdate : Move → Bool
  | .act _ => false
  | .update _ _ => true

/-- The last message that was sent on a channel since the last update, or since the beginning. -/
def lastSent (moves : List Move) (ch : Channel) : Option Message :=
  (moves.reverse.takeWhile fun move => !move.isUpdate).findSome? (Move.sentOn ch)

/-- What a move makes of the bus and the aggregator; none when an update does not return. -/
def step [Clock] : Bus × Aggregator → Move → Option (Bus × Aggregator)
  | (b, a), .act action => some (b.act action, a)
  | (b, a), .update start timeout =>
    let r := (a.update timeout b start).run start []
    match r.ending with
    | .done a => some (r.bus, a)
    | _ => none

/-- What moves one after another make of the bus and the aggregator. -/
def steps [Clock] (moves : List Move) (b : Bus) (a : Aggregator) : Option (Bus × Aggregator) := moves.foldlM step (b, a)

/-- A run up to its last move, and that move. -/
theorem exists_step_of_steps_concat [Clock] {moves : List Move} {move : Move} {x : Bus × Aggregator}
    (h : steps (moves ++ [move]) b a = some x) :
    ∃ b₁ a₁, steps moves b a = some (b₁, a₁) ∧ step (b₁, a₁) move = some x := by
  rw [steps, List.foldlM_append, Option.bind_eq_bind, Option.bind_eq_some_iff] at h
  obtain ⟨⟨b₁, a₁⟩, hmoves, hmove⟩ := h
  exact ⟨b₁, a₁, hmoves, by simpa using hmove⟩

theorem lastSent_act (moves : List Move) (action : Bus.Action) (ch : Channel) :
    lastSent (moves ++ [.act action]) ch = (action.sentOn ch).or (lastSent moves ch) := by
  simp only [lastSent, List.reverse_append, List.reverse_singleton, List.singleton_append, List.takeWhile_cons,
    Move.isUpdate, Bool.not_false, if_true, List.findSome?_cons, Move.sentOn]
  cases action.sentOn ch <;> rfl

/-- An update takes what was sent. -/
theorem lastSent_update (moves : List Move) (start timeout : Duration) (ch : Channel) :
    lastSent (moves ++ [.update start timeout]) ch = none := by
  simp [lastSent, Move.isUpdate]

/-- Publishers are at the default address, so at another one there are no messages. -/
theorem lastSent_eq_none_or (moves : List Move) (ip : IpAddress) (endpoint : String) :
    lastSent moves ⟨ip, endpoint⟩ = none ∨ lastSent moves ⟨ip, endpoint⟩ = lastSent moves (.published endpoint) := by
  by_cases hip : ip = localhost
  · rw [hip]
    exact .inr rfl
  · left
    rw [lastSent, List.findSome?_eq_none_iff]
    intro move _
    cases move with
    | update start timeout => rfl
    | act action =>
      cases action with
      | send p m => exact if_neg fun hch => hip (congrArg Channel.addr hch)
      | _ => rfl

/-- What others do only sends messages to the aggregator. -/
theorem Feeding.act (h : Feeding c ip sent b a) {action : Bus.Action} (hungated : action.Ungated)
    (hother : ∀ p ∈ a.subscribers, action.reader? ≠ some p.2.reader) :
    Feeding c ip (fun ch => (action.sentOn ch).or (sent ch)) (b.act action) a := by
  constructor
  case wellFormed => exact h.wellFormed.act action
  case ungated => exact Bus.gates_act hungated h.ungated
  case nodup => exact h.nodup
  case policy => exact h.policy
  case services => exact h.services
  case poller => exact h.poller
  case distinct => exact h.distinct
  case holds =>
    intro p hp
    exact (h.holds p hp).act h.wellFormed (hother p hp)

/-- An update that ends well has made a tick of its batch. -/
theorem tick_of_ended {a' : Aggregator} {now : Duration} {batch : List Event} (h : a.ended now batch = .done a') :
    ∃ tracker, (a.tracker.tick now (batch.map some)).2 = .ok tracker ∧ a' = { a with tracker } := by
  rw [ended] at h
  split at h
  · rename_i tracker htick
    cases h
    exact ⟨tracker, htick, rfl⟩
  · cases h

/-- The batch that an update makes of the last messages. -/
def sentBatch (c : Tracker.Config) (ip : IpAddress) (sent : Channel → Option Message) : List (Option Event) :=
  (c.readOrder.filterMap fun s => (sent ⟨ip, s.name⟩).bind decoded?).map some

/-- An update that ends has taken what was sent and made a tick of it. -/
theorem Feeding.tick_of_step [Clock] {b' : Bus} {a' : Aggregator} {start timeout : Duration} (h : Feeding c ip sent b a)
    (hstep : step (b, a) (.update start timeout) = some (b', a')) :
    ∃ now tracker, a.poller.instant? b start timeout = some now
      ∧ (a.tracker.tick now (sentBatch c ip sent)).2 = .ok tracker
      ∧ b' = Aggregator.taken b (a.read b) ∧ a' = { a with tracker } := by
  obtain ⟨notices, hrun⟩ := h.run_update start timeout
  simp only [step] at hstep
  -- An update that is stuck or breaks down is no step.
  cases hinstant : a.poller.instant? b start timeout with
  | none =>
    rw [hrun, hinstant] at hstep
    cases hstep
  | some now =>
    rw [hrun, hinstant] at hstep
    split at hstep
    · rename_i after hended
      cases hstep
      obtain ⟨tracker, htick, rfl⟩ := tick_of_ended hended
      exact ⟨now, tracker, rfl, htick, rfl, rfl⟩
    · cases hstep

/-- One move: the bus goes on feeding the aggregator, with what was sent. -/
theorem feeding_step [Clock] {moves : List Move} {move : Move} {b' : Bus} {a' : Aggregator}
    (h : Feeding c ip (lastSent moves) b a) (hforeign : move.Foreign a) (hstep : step (b, a) move = some (b', a')) :
    Feeding c ip (lastSent (moves ++ [move])) b' a' ∧ a'.subscribers = a.subscribers := by
  cases move with
  | act action =>
    cases hstep
    refine ⟨?_, rfl⟩
    rw [show lastSent (moves ++ [.act action]) = fun ch => (action.sentOn ch).or (lastSent moves ch) from
      funext (lastSent_act moves action)]
    exact h.act hforeign.1 hforeign.2
  | update start timeout =>
    rw [show lastSent (moves ++ [.update start timeout]) = fun _ => none from
      funext (lastSent_update moves start timeout)]
    obtain ⟨now, tracker, -, htick, rfl, rfl⟩ := h.tick_of_step hstep
    exact ⟨h.taken tracker (Tracker.ticked_of_tick htick).policy, rfl⟩

/-- Along every run of moves that are foreign to it, the bus feeds the aggregator with what was sent since the last
update. -/
theorem feeding_steps [Clock] {moves : List Move} {b' : Bus} {a' : Aggregator} (h : Feeding c ip (fun _ => none) b a)
    (hforeign : ∀ move ∈ moves, move.Foreign a) (hsteps : steps moves b a = some (b', a')) :
    Feeding c ip (lastSent moves) b' a' ∧ a'.subscribers = a.subscribers := by
  -- The induction takes the last move off: a move is judged by what was sent before it.
  induction moves using List.reverseRecOn generalizing b' a' with
  | nil =>
    cases hsteps
    exact ⟨h, rfl⟩
  | append_singleton moves move ih =>
    obtain ⟨b₁, a₁, hmoves, hstep⟩ := exists_step_of_steps_concat hsteps
    obtain ⟨hfeeding, hsame⟩ := ih (fun m hm => hforeign m (List.mem_append_left _ hm)) hmoves
    have hforeign₁ : move.Foreign a₁ := by
      have hmove := hforeign move (List.mem_append_right _ (List.mem_singleton_self move))
      cases move with
      | act action => exact ⟨hmove.1, hsame ▸ hmove.2⟩
      | update start timeout => trivial
    obtain ⟨hnext, hsame₁⟩ := feeding_step hfeeding hforeign₁ hstep
    exact ⟨hnext, hsame₁.trans hsame⟩

/-- Let an aggregator be opened on any bus on which no gate is active, and let others send, come and go between its
updates. An update goes on at once if anything was sent to a polled service since the update before, and else at its
deadline; it is stuck only where the deadline is beyond the clock. It ends as the tick does that takes the last
message of each service, the polled services first, less the messages that do not decode, and then none of its
queues holds a message. -/
theorem update_eq_tick_sent [Clock] (actions : List Bus.Action) (c : Tracker.Config) (notices : List Notice)
    (b b' : Bus) (a a' : Aggregator) (moves : List Move) (start timeout : Duration)
    (hungated : (({} : Bus).run actions).gates.active = false)
    (hopen : Aggregator.open (({} : Bus).run actions) c = ⟨b, notices, .ok a⟩)
    (hforeign : ∀ move ∈ moves, move.Foreign a) (hsteps : steps moves b a = some (b', a')) :
    ∃ ip, IpAddress.parse? c.addr = some ip
      ∧ let sent (s : Service) := lastSent moves ⟨ip, s.name⟩
        let instant := if ∀ s ∈ c.polled, sent s = none then start.later? timeout else some start
        let r := (a'.update timeout b' start).run start []
        c.services.Nodup ∧ c.readOrder.Perm c.services
          ∧ (instant = none → r.ending = .stuck)
          ∧ ∀ now, instant = some now → r.now = now
            ∧ r.ending = a'.ended now (c.readOrder.filterMap fun s => (sent s).bind decoded?)
            ∧ ∀ p ∈ a'.subscribers, r.bus.queue p.2 = [] := by
  have hbus := Bus.wellFormed_run actions Bus.wellFormed_empty
  obtain ⟨ip, hip, hopened⟩ := feeding_of_open hbus hungated hopen
  obtain ⟨hfeeding, -⟩ := feeding_steps hopened hforeign hsteps
  obtain ⟨notices', hrun⟩ := hfeeding.run_update start timeout
  refine ⟨ip, hip, hfeeding.nodup, c.readOrder_perm, fun hnone => ?_, fun now hnow => ?_⟩
  · have hinstant : a'.poller.instant? b' start timeout = none := by
      simpa only [Poller.instant?, hfeeding.ready_eq_nil_iff] using hnone
    rw [hrun, hinstant]
  · have hinstant : a'.poller.instant? b' start timeout = some now := by
      simpa only [Poller.instant?, hfeeding.ready_eq_nil_iff] using hnow
    rw [hrun, hinstant]
    refine ⟨rfl, rfl, fun p hp => ?_⟩
    exact (hfeeding.taken a'.tracker rfl).queue hp

/-- One service that is waited for and one that is not. -/
def pairConfig : Tracker.Config := { services := [.carState, .userFlag], poll := some [.carState] }

/-- Bytes that are no event for the first service, and an event for the second. -/
def pairMoves : List Move := [.act (.send ⟨"carState"⟩ [7, 2]), .act (.send ⟨"userFlag"⟩ [7, 1, 11])]

/-- The tick takes the event of the second service only. -/
theorem update_pair : ∃ b a notices b' a', Aggregator.open {} pairConfig = ⟨b, notices, .ok a⟩
    ∧ steps pairMoves b a = some (b', a')
    ∧ ((a'.update .zero b' .zero).run .zero []).ending = a'.ended .zero [⟨7, true, .userFlag⟩] := by
  have hvalid : pairConfig.validate = .ok () := (Tracker.Config.validate_eq_ok_iff pairConfig).mpr (by decide)
  have hopen : ∃ b notices, Aggregator.open {} pairConfig = ⟨b, notices, .ok ⟨Tracker.ofConfig pairConfig,
      [(.carState, ⟨0, "carState", none⟩), (.userFlag, ⟨1, "userFlag", none⟩)], ⟨[⟨0, "carState", none⟩]⟩⟩⟩ := by
    rw [Aggregator.open, hvalid]
    exact ⟨_, _, rfl⟩
  obtain ⟨b, notices, hopen⟩ := hopen
  have hforeign : ∀ a : Aggregator, ∀ move ∈ pairMoves, move.Foreign a := by
    intro a move hmove
    rw [pairMoves, List.mem_pair] at hmove
    obtain rfl | rfl := hmove
    · exact ⟨trivial, fun _ _ h => by cases h⟩
    · exact ⟨trivial, fun _ _ h => by cases h⟩
  obtain ⟨ip, hip, -, -, -, hupdate⟩ := update_eq_tick_sent [] pairConfig notices b _ _ _ pairMoves .zero .zero rfl
    hopen (hforeign _) rfl
  have hlocal : IpAddress.parse? pairConfig.addr = some (.v4 127 0 0 1) := by
    decide
  cases hip.symm.trans hlocal
  exact ⟨b, _, notices, _, _, hopen, rfl, (hupdate .zero (by decide)).2.1⟩

end Aggregator

end TopicHealth
