import TopicHealth.Proofs.Session.History

/-!
# Delivery

Every subscription has a queue of its own, shared by the clones of its subscriber and by nobody else. As long as the
gates are out of use, what the queue holds follows from the messages sent on its channel and the receives from it alone,
whatever else the user does.

* `queue_follows_history`: what each queue holds, and what does not change it.
* `readersUpdated_iff`: when all readers of a publisher are up to date.
-/

namespace TopicHealth.Session

variable {σ : Session} {moves : List Move}

/-! ## Subscriptions -/

/-- The readers are those of which a subscriber is held. -/
theorem Sound.exists_reader_iff (hσ : σ.Sound) (id : Nat) :
    (∃ r ∈ σ.bus.readers, r.id = id) ↔ ∃ s ∈ σ.subscribers, s.reader = id := by
  have hheld : id ∈ σ.subscribers.map Subscriber.reader ↔ ∃ s ∈ σ.subscribers, s.reader = id := List.mem_map
  rw [← hheld, hσ.shared.mem_iff]
  exact exists_congr fun r => hσ.shared.wellFormed.reader?_eq_some_iff.symm

/-- A subscription that succeeds has a reader of a new number, on the channel of the endpoint at the address. -/
theorem subscription_of_done [Clock] {endpoint addr : String} {conflate : Bool} (hσ : σ.Sound)
    (hdone : σ.reply (.subscribe endpoint addr conflate) = .done) :
    ∃ ip s, IpAddress.parse? addr = some ip
      ∧ (σ.step (.subscribe endpoint addr conflate)).get? σ.holdings.length = some (.subscriber s)
      ∧ (∀ t ∈ σ.subscribers, t.reader ≠ s.reader) ∧ s.reader < (σ.step (.subscribe endpoint addr conflate)).bus.serial
      ∧ ∀ r ∈ (σ.step (.subscribe endpoint addr conflate)).bus.readers, r.id = s.reader →
        r.channel = ⟨ip, endpoint⟩ ∧ r.conflate = conflate := by
  cases hip : IpAddress.parse? addr with
  | none =>
    rw [reply, perform, make, Bus.subscribe, hip] at hdone
    cases hdone
  | some ip =>
    have hstep : σ.step (.subscribe endpoint addr conflate) =
        ⟨{ σ.bus with
          readers := σ.bus.readers ++ [⟨σ.bus.serial, ⟨ip, endpoint⟩, conflate, [], 1⟩], serial := σ.bus.serial + 1 },
          σ.holdings ++ [some (.subscriber { reader := σ.bus.serial, endpoint })]⟩ := by
      rw [step, perform, make, Bus.subscribe, hip]
    rw [hstep]
    refine ⟨ip, { reader := σ.bus.serial, endpoint }, rfl, ?_, ?_, Nat.lt_succ_self _, ?_⟩
    · exact get?_eq_some_iff.mpr List.getElem?_concat_length
    · intro t ht heq
      -- The number of the new reader is the serial of the bus, and held readers are below it.
      have hlt := hσ.shared.lt_serial (List.mem_map_of_mem ht)
      exact Nat.ne_of_lt hlt heq
    · intro r hr hid
      rcases List.mem_append.mp hr with hr | hr
      · exact absurd hid (Nat.ne_of_lt (hσ.shared.wellFormed.lt_serial r hr))
      · rw [List.mem_singleton.mp hr]
        exact ⟨rfl, rfl⟩

/-- A reader keeps its channel and its kind. -/
theorem exists_reader_of_run [Clock] {later : List Move} {r : Reader} (hσ : σ.Sound)
    (hgates : σ.bus.gates.active = false) (hungated : ∀ move ∈ later, move.Ungated)
    (hr : r ∈ (σ.run later).bus.readers) (hid : r.id < σ.bus.serial) :
    ∃ r₀ ∈ σ.bus.readers, r₀.id = r.id ∧ r₀.channel = r.channel ∧ r₀.conflate = r.conflate := by
  induction later generalizing σ with
  | nil => exact ⟨r, hr, rfl, rfl, rfl⟩
  | cons move later ih =>
    obtain ⟨hmove, hlater⟩ := List.forall_mem_cons.mp hungated
    obtain ⟨hserial, hleads⟩ := follows hσ hgates move
    obtain ⟨r₁, hr₁, hid₁, hch₁, hconflate₁⟩ :=
      ih (hσ.step move) (gates_step hσ hgates hmove) hlater hr (Nat.lt_of_lt_of_le hid hserial)
    -- A reader made by the first move would have a later number.
    rcases hleads r₁ hr₁ with ⟨r₀, hr₀, hid₀, hch₀, hconflate₀, -⟩ | ⟨hnew, -⟩
    · exact ⟨r₀, hr₀, hid₀.trans hid₁, hch₀.trans hch₁, hconflate₀.trans hconflate₁⟩
    · exact absurd (hid₁ ▸ hnew) (Nat.not_le.mpr hid)

/-! ## Queues -/

/-- A send on another channel leaves a reader alone. -/
theorem mem_readers_send [Clock] {place : Nat} {service : Option Service} {m : Message} {p : Publisher} {r : Reader}
    (hr : r ∈ σ.bus.readers) (hp : σ.publisher? place service = some (.ok p))
    (hch : Channel.published p.endpoint ≠ r.channel) : r ∈ (σ.step (.send place service m)).bus.readers := by
  rw [step, perform, usingPublisher, hp]
  refine List.mem_map.mpr ⟨r, hr, ?_⟩
  exact if_neg (Ne.symm hch)

/-- A receive from another reader leaves a reader alone. -/
theorem mem_readers_receive [Clock] {place : Nat} {nonBlocking : Bool} {start : Duration} {s : Subscriber} {r : Reader}
    (hgates : σ.bus.gates.active = false) (hr : r ∈ σ.bus.readers) (hs : σ.subscriber? place = some s)
    (hid : s.reader ≠ r.id) : r ∈ (σ.step (.receive place nonBlocking start)).bus.readers := by
  obtain ⟨subs, hsubs, hbus, -⟩ := exists_taken_of_receive hgates place nonBlocking start
  rw [hbus]
  refine Aggregator.mem_readers_taken hr fun t ht => ?_
  cases (hsubs t ht).symm.trans hs
  exact hid

/-- Let the gates be out of use. After any moves there is one reader for each subscription of which a subscriber is
held, clones included, and it is on the channel of the address and the endpoint that were asked for. The messages sent
on that channel since are those that a plain reader has passed on to its subscribers, in order, and then those it holds;
a conflating reader holds the last one that was sent since the last receive from it, or none if none was. A send on
another channel and a receive from another reader leave it as it is. -/
theorem queue_follows_history [Clock] (moves : List Move) (hungated : ∀ move ∈ moves, move.Ungated) :
    let σ := after moves
    (∀ id, (∃ r ∈ σ.bus.readers, r.id = id) ↔ ∃ s ∈ σ.subscribers, s.reader = id)
      ∧ (∀ earlier later endpoint addr conflate, moves = earlier ++ .subscribe endpoint addr conflate :: later →
        (after earlier).reply (.subscribe endpoint addr conflate) = .done →
        ∃ ip s, IpAddress.parse? addr = some ip
          ∧ (after (earlier ++ [.subscribe endpoint addr conflate])).get? (after earlier).holdings.length
            = some (.subscriber s)
          ∧ (∀ t ∈ (after earlier).subscribers, t.reader ≠ s.reader)
          ∧ ∀ r ∈ σ.bus.readers, r.id = s.reader → r.channel = ⟨ip, endpoint⟩ ∧ r.conflate = conflate)
      ∧ ∀ r ∈ σ.bus.readers,
        let past := history r.channel r.id {} moves
        (r.conflate = false → Traffic.allSent past = Traffic.allReceived past ++ r.queue)
          ∧ (r.conflate = true → r.queue = (Traffic.unread past).toList)
          ∧ (∀ place service m p, σ.publisher? place service = some (.ok p) →
            Channel.published p.endpoint ≠ r.channel → r ∈ (σ.step (.send place service m)).bus.readers)
          ∧ ∀ place nonBlocking start s, σ.subscriber? place = some s → s.reader ≠ r.id →
            r ∈ (σ.step (.receive place nonBlocking start)).bus.readers := by
  intro σ
  have hrecorded : Recorded moves σ := recorded_after moves hungated
  refine ⟨hrecorded.sound.exists_reader_iff, ?_, ?_⟩
  · rintro earlier later endpoint addr conflate rfl hdone
    obtain ⟨hearlier, hlater⟩ := List.forall_mem_append.mp hungated
    obtain ⟨-, hlater⟩ := List.forall_mem_cons.mp hlater
    have hbefore := recorded_after earlier hearlier
    obtain ⟨ip, s, hip, hplace, hnew, hserial, hreader⟩ := subscription_of_done hbefore.sound hdone
    refine ⟨ip, s, hip, ?_, hnew, ?_⟩
    · rw [after_concat]
      exact hplace
    · intro r hr hid
      have hgates : ((after earlier).step (.subscribe endpoint addr conflate)).bus.gates.active = false :=
        gates_step hbefore.sound hbefore.ungated trivial
      have hrun : σ = ((after earlier).step (.subscribe endpoint addr conflate)).run later := run_append {} earlier _
      -- A reader of the new number can only be the one made by the subscription, or one kept from it.
      rw [hrun] at hr
      obtain ⟨r₀, hr₀, hid₀, hch₀, hconflate₀⟩ :=
        exists_reader_of_run (hbefore.sound.step _) hgates hlater hr (hid ▸ hserial)
      obtain ⟨hch, hconflate⟩ := hreader r₀ hr₀ (hid₀.trans hid)
      exact ⟨hch₀.symm.trans hch, hconflate₀.symm.trans hconflate⟩
  · intro r hr past
    -- The invariant of a run relates the queue to the history, one case for each kind of reader.
    have hleads : Traffic.Leads r.conflate [] past r.queue := hrecorded.leads r hr
    refine ⟨?_, ?_, ?_, ?_⟩
    · intro hconflate
      rw [hconflate] at hleads
      exact hleads.sent_eq
    · intro hconflate
      rw [hconflate] at hleads
      exact hleads.queue_eq_unread
    · intro place service m p hp hch
      exact mem_readers_send hr hp hch
    · intro place nonBlocking start s hs hid
      exact mem_readers_receive hrecorded.ungated hr hs hid

/-- A plain subscriber with a clone that receives, and a conflating subscriber, on one channel. -/
def sharedMoves : List Move :=
  [.subscribe "carState" "127.0.0.1" false, .clone 0, .subscribe "carState" "127.0.0.1" true, .openPublisher "carState",
    .send 3 none [1], .send 3 none [2], .receive 1 true .zero]

/-- The first message has gone to the clone, and both readers hold the second one. -/
theorem queues_of_sharedMoves : ∃ r ∈ (after sharedMoves).bus.readers, ∃ s ∈ (after sharedMoves).bus.readers,
    r.conflate = false ∧ r.queue = [[2]]
      ∧ Traffic.allSent (history r.channel r.id {} sharedMoves)
        = Traffic.allReceived (history r.channel r.id {} sharedMoves) ++ [[2]]
      ∧ s.conflate = true ∧ s.queue = [[2]]
      ∧ (Traffic.unread (history s.channel s.id {} sharedMoves)).toList = [[2]] := by
  have hungated : ∀ move ∈ sharedMoves, move.Ungated := by
    simp [sharedMoves, Move.Ungated]
  obtain ⟨-, -, hqueues⟩ := queue_follows_history sharedMoves hungated
  have hplain : (⟨0, ⟨.v4 127 0 0 1, "carState"⟩, false, [[2]], 2⟩ : Reader) ∈ (after sharedMoves).bus.readers := by
    decide +kernel
  have hconflating : (⟨1, ⟨.v4 127 0 0 1, "carState"⟩, true, [[2]], 1⟩ : Reader) ∈ (after sharedMoves).bus.readers := by
    decide +kernel
  have hlatest := (hqueues _ hconflating).2.1 rfl
  exact ⟨_, hplain, _, hconflating, rfl, rfl, (hqueues _ hplain).1 rfl, rfl, rfl, hlatest.symm⟩

/-! ## Readers that are up to date -/

/-- Let the gates be out of use. After any moves the readers are those of which a subscriber is held, be it by a poller
or by an aggregator. All readers of a publisher are told to be up to date exactly if it has one and each, conflating or
not, has passed the newest message on to a subscriber that was sent on the channel since the reader was made, or none
was; each message passed on is one of those sent, at its place among them. -/
theorem readersUpdated_iff [Clock] (moves : List Move) (hungated : ∀ move ∈ moves, move.Ungated) :
    let σ := after moves
    (∀ id, (∃ r ∈ σ.bus.readers, r.id = id) ↔ ∃ s ∈ σ.subscribers, s.reader = id)
      ∧ (∀ r ∈ σ.bus.readers,
        let past := history r.channel r.id {} moves
        (Traffic.allReceived past).map some
          = (Traffic.places r.conflate past 0 0).map fun place => (Traffic.allSent past)[place]?)
      ∧ ∀ p ∈ σ.publishers, σ.bus.allReadersUpdated p = true ↔
        (∃ r ∈ σ.bus.readers, r.channel = .published p.endpoint)
          ∧ ∀ r ∈ σ.bus.readers, r.channel = .published p.endpoint →
            Traffic.UpToDate r.conflate (history r.channel r.id {} moves) := by
  intro σ
  have hrecorded : Recorded moves σ := recorded_after moves hungated
  refine ⟨hrecorded.sound.exists_reader_iff, fun r hr => (hrecorded.leads r hr).received_eq, ?_⟩
  intro p _
  -- The code asks whether the queues are empty, the history whether the newest message has been passed on.
  have hempty : ∀ r ∈ σ.bus.readers, r.queue.isEmpty = true ↔
      Traffic.UpToDate r.conflate (history r.channel r.id {} moves) := by
    intro r hr
    rw [List.isEmpty_iff]
    exact (hrecorded.leads r hr).queue_eq_nil_iff
  rw [Bus.allReadersUpdated, Bool.and_eq_true, Bool.not_eq_true', List.all_eq_true]
  refine and_congr ?_ ?_
  · rw [List.isEmpty_eq_false_iff_exists_mem]
    exact exists_congr fun r => by rw [List.mem_filter, decide_eq_true_iff]
  · constructor
    · intro hall r hr hch
      exact (hempty r hr).mp (hall r (List.mem_filter.mpr ⟨hr, decide_eq_true hch⟩))
    · intro hall r hr
      obtain ⟨hr, hch⟩ := List.mem_filter.mp hr
      exact (hempty r hr).mpr (hall r hr (of_decide_eq_true hch))

/-- A poller keeps the reader of a subscriber that is dropped, and a clone that its poll gives receives both messages
and is dropped as well; a conflating subscriber receives the second message only. -/
def pollerMoves : List Move :=
  [.openPublisher "carState", .subscribe "carState" "127.0.0.1" false, .openPoller, .register 2 1, .drop 1,
    .subscribe "carState" "127.0.0.1" true, .send 0 none [1], .send 0 none [2], .poll 2 .zero .zero,
    .receive 4 true .zero, .receive 4 true .zero, .receive 3 true .zero, .drop 4]

/-- Two subscribers are held in the end, one by the poller alone, whose reader is among the readers. All readers are
told to be up to date, so each has passed on the second message. -/
theorem readersUpdated_of_pollerMoves :
    (after pollerMoves).subscribers.map Subscriber.reader = [0, 1]
      ∧ (∃ p s, (after pollerMoves).get? 2 = some (.poller p) ∧ s ∈ p.subscribers ∧ s.reader = 0)
      ∧ (∃ r ∈ (after pollerMoves).bus.readers, r.id = 0)
      ∧ (after pollerMoves).bus.allReadersUpdated ⟨"carState"⟩ = true
      ∧ (∃ r ∈ (after pollerMoves).bus.readers, r.channel = .published "carState")
      ∧ ∀ r ∈ (after pollerMoves).bus.readers, r.channel = .published "carState" →
        Traffic.UpToDate r.conflate (history r.channel r.id {} pollerMoves) := by
  have hungated : ∀ move ∈ pollerMoves, move.Ungated := by
    simp [pollerMoves, Move.Ungated]
  obtain ⟨hreader, -, hupdated⟩ := readersUpdated_iff pollerMoves hungated
  have hheld : (after pollerMoves).get? 0 = some (.publisher ⟨"carState"⟩) := rfl
  have hp : ⟨"carState"⟩ ∈ (after pollerMoves).publishers :=
    mem_publishers_of_get? hheld List.mem_cons_self
  have hsubscribers : (after pollerMoves).subscribers.map Subscriber.reader = [0, 1] := by
    decide +kernel
  have hpoller : ∃ p s, (after pollerMoves).get? 2 = some (.poller p) ∧ s ∈ p.subscribers ∧ s.reader = 0 :=
    ⟨_, _, rfl, List.mem_cons_self, rfl⟩
  obtain ⟨p, s, hplace, hs, hid⟩ := hpoller
  have htold : (after pollerMoves).bus.allReadersUpdated ⟨"carState"⟩ = true := by
    decide +kernel
  exact ⟨hsubscribers, ⟨p, s, hplace, hs, hid⟩, (hreader 0).mpr ⟨s, mem_subscribers_of_get? hplace hs, hid⟩, htold,
    (hupdated _ hp).mp htold⟩

end TopicHealth.Session
