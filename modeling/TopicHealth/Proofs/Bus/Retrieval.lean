import TopicHealth.Proofs.Bus.Drain
import TopicHealth.Proofs.Prelude

/-!
# Ways to retrieve

A subscriber may take the messages that wait for it all at once, undecoded or decoded, or only look at the newest, or
take them one at a time. Where no gate is active and nothing is waited for, each way is a function of the queue, and
what they give of the same queue fits together.

* `mapM_eq_error_iff`: the first member that fails decides.
* `Subscriber.receiveTimes_now`: one message after another.
* `Subscriber.retrievals_of_queue`: what each way gives, what it leaves, and how they agree.
-/

namespace TopicHealth

/-! ## The first that fails -/

section MapM

variable {ε α β : Type} {f : α → Except ε β} {a : α} {l : List α}

theorem mapM_cons_of_ok {b : β} (h : f a = .ok b) : (a :: l).mapM f = (l.mapM f).map (b :: ·) := by
  rw [List.mapM_cons, h]
  change (l.mapM f >>= fun bs => pure (b :: bs)) = _
  cases l.mapM f <;> rfl

theorem mapM_cons_of_error {fault : ε} (h : f a = .error fault) : (a :: l).mapM f = .error fault := by
  rw [List.mapM_cons, h]
  rfl

/-- There is a list if every entry has a value, and it is the list of these. -/
theorem mapM_eq_ok_iff {bs : List β} : l.mapM f = .ok bs ↔ l.map f = bs.map .ok := by
  induction l generalizing bs with
  | nil =>
    rw [List.mapM_nil, List.map_nil]
    cases bs <;> simp [pure, Except.pure]
  | cons a l ih =>
    rw [List.map_cons]
    cases ha : f a with
    | error fault =>
      rw [mapM_cons_of_error ha]
      cases bs <;> simp
    | ok b =>
      rw [mapM_cons_of_ok ha]
      constructor
      · intro h
        obtain ⟨rest, hrest, rfl⟩ := map_eq_ok h
        rw [ih.mp hrest, List.map_cons]
      · intro h
        cases bs with
        | nil => cases h
        | cons b' bs =>
          -- The lists agree entry by entry, the first of which is known.
          obtain ⟨hb, hrest⟩ := List.cons.inj h
          cases hb
          rw [ih.mpr hrest, map_ok]

/-- The fault is that of the first entry that has none. -/
theorem mapM_eq_error_iff {fault : ε} : l.mapM f = .error fault ↔
    ∃ earlier a later, l = earlier ++ a :: later ∧ (∀ x ∈ earlier, ∃ b, f x = .ok b) ∧ f a = .error fault := by
  induction l with
  | nil => simp [pure, Except.pure]
  | cons a l ih =>
    cases ha : f a with
    | error fault' =>
      rw [mapM_cons_of_error ha]
      constructor
      · intro h
        cases h
        exact ⟨[], a, l, rfl, fun x hx => absurd hx List.not_mem_nil, ha⟩
      · rintro ⟨earlier, x, later, hl, hearlier, hx⟩
        -- The one that fails cannot be a later one, since those before it do not fail.
        cases earlier with
        | nil =>
          cases hl
          cases ha.symm.trans hx
          rfl
        | cons y earlier =>
          cases hl
          obtain ⟨b, hb⟩ := hearlier a List.mem_cons_self
          cases ha.symm.trans hb
    | ok b =>
      have hmap : (l.mapM f).map (b :: ·) = .error fault ↔ l.mapM f = .error fault := by
        cases l.mapM f <;> simp [Except.map]
      rw [mapM_cons_of_ok ha, hmap, ih]
      constructor
      · rintro ⟨earlier, x, later, rfl, hearlier, hx⟩
        exact ⟨a :: earlier, x, later, rfl, List.forall_mem_cons.mpr ⟨⟨b, ha⟩, hearlier⟩, hx⟩
      · rintro ⟨earlier, x, later, hl, hearlier, hx⟩
        cases earlier with
        | nil =>
          cases hl
          cases ha.symm.trans hx
        | cons y earlier =>
          cases hl
          exact ⟨earlier, x, later, rfl, (List.forall_mem_cons.mp hearlier).2, hx⟩

end MapM

/-! ## What is left -/

/-- The queues after a subscriber has retrieved: some messages are left to it and to its clones, and the other readers
have what they had. -/
def Bus.Leaves (b : Bus) (s : Subscriber) (left : List Message) (b' : Bus) : Prop :=
  ∀ t : Subscriber, b'.queue t = if t.reader = s.reader then left else b.queue t

theorem Bus.queue_congr {b : Bus} {s t : Subscriber} (h : t.reader = s.reader) : b.queue t = b.queue s := by
  rw [queue, h, queue]

/-- Taking one message after another leaves the later ones, and the queues of others as they are. -/
theorem Bus.leaves_afterTakes (b : Bus) (s : Subscriber) (n : Nat) :
    b.Leaves s ((b.queue s).drop n) (b.afterTakes s n) := by
  intro t
  split_ifs with hreader
  · rw [queue_congr hreader, queue_afterTakes]
  · induction n generalizing b with
    | zero => rfl
    | succ n ih =>
      have hother : (b.take s).2.queue t = b.queue t := queue_take_ne hreader
      rw [afterTakes_succ, ih, hother]

namespace Subscriber

variable {bus : Bus} {now : Duration} (s : Subscriber)

/-- Takes one message after another, so many times, and decodes each by itself. -/
def receiveTimes [Clock] (s : Subscriber) : Nat → Operation (List (Except Wire.Fault (Option Event)))
  | 0 => return []
  | n + 1 => return (← s.receiveOneOrNone) :: (← s.receiveTimes n)

section Now

variable (h : bus.gates.active = false)

include h

/-- A drain that decodes takes as much as one that does not, whatever fails to decode. -/
theorem drain_now [Clock] (further : Nat) :
    s.drain false further bus now =
      .done (bus.afterTakes s ((bus.queue s).length + 1)) [] ((bus.queue s).mapM Event.decode) := by
  rw [drain, Operation.bind_of_done_nil (s.drainRaw_now h further)]
  rfl

/-- Each time the oldest message is taken, whether or not it decodes. -/
theorem receiveTimes_now [Clock] {n : Nat} (hn : n ≤ (bus.queue s).length) :
    s.receiveTimes n bus now =
      .done (bus.afterTakes s n) [] (((bus.queue s).take n).map fun m => decodeOne (some m)) := by
  induction n generalizing bus with
  | zero => rfl
  | succ n ih =>
    have hqueue := bus.queue_take s
    rw [receiveTimes, Operation.bind_of_done_nil (s.receiveOneOrNone_now h)]
    cases hheld : bus.queue s with
    | nil =>
      rw [hheld] at hn
      cases hn
    | cons m rest =>
      rw [hheld] at hn hqueue
      have hungated : (bus.take s).2.gates.active = false := h
      have hroom : n ≤ ((bus.take s).2.queue s).length := by
        rw [hqueue]
        exact Nat.le_of_succ_le_succ hn
      have hrest : s.receiveTimes n (bus.take s).2 now = _ := ih hungated hroom
      rw [hqueue, List.tail_cons] at hrest
      exact Operation.bind_of_done_nil hrest

end Now

/-- If every message of a queue decodes, the newest one decodes to the last of the events. -/
theorem decodeOne_getLast? {q : List Message} {events : List Event} (h : q.map Event.decode = events.map .ok) :
    decodeOne q.getLast? = .ok events.getLast? := by
  have hlast := congrArg List.getLast? h
  rw [List.getLast?_map, List.getLast?_map] at hlast
  cases hq : q.getLast? with
  | none =>
    rw [hq, Option.map_none, eq_comm, Option.map_eq_none_iff] at hlast
    rw [hlast]
    rfl
  | some m =>
    rw [hq, Option.map_some, eq_comm, Option.map_eq_some_iff] at hlast
    obtain ⟨e, he, hm⟩ := hlast
    rw [decodeOne, ← hm, he]
    rfl

/-- Where no gate is active, let any messages wait for a subscriber. Without waiting for more and without breaking
down, it can take all of them in order; take all of them and decode them, which gives the events in order if every one
decodes, and otherwise what is wrong with the first that does not; or take all of them and decode only the last, if
there is one, whatever those before it are. Each of these leaves it no message, however it ends, and the other readers
what they had. It can as well take the oldest alone, which leaves the others whether or not it decodes; doing so as
often as there are messages gives what each of them decodes to, and leaves none. Where all of them decode together, the
newest is the last of the events. It makes no difference for how many turns more than there are messages the loops are
followed. -/
theorem retrievals_of_queue [Clock] (b : Bus) (now : Duration) (further : Nat) (h : b.gates.active = false) :
    let q := b.queue s
    (∃ b', s.drainRaw false further b now = .done b' [] q ∧ b.Leaves s [] b')
    ∧ (∃ b' result, s.drain false further b now = .done b' [] result ∧ b.Leaves s [] b'
      ∧ (∀ events, result = .ok events ↔ q.map Event.decode = events.map .ok)
      ∧ (∀ fault, result = .error fault ↔ ∃ earlier m later, q = earlier ++ m :: later
        ∧ (∀ m' ∈ earlier, ∃ e, Event.decode m' = .ok e) ∧ Event.decode m = .error fault)
      ∧ ∀ events, result = .ok events → decodeOne q.getLast? = .ok events.getLast?)
    ∧ (∃ b' notices, s.newest false further b now = .done b' notices (decodeOne q.getLast?) ∧ b.Leaves s [] b')
    ∧ (∃ b', s.receiveOneOrNone b now = .done b' [] (decodeOne q.head?) ∧ b.Leaves s q.tail b')
    ∧ ∃ b', s.receiveTimes q.length b now = .done b' [] (q.map fun m => decodeOne (some m)) ∧ b.Leaves s [] b' := by
  intro q
  -- How much each loop takes tells what it leaves: everything, one message, or as many as there were.
  have hall : b.Leaves s [] (b.afterTakes s (q.length + 1)) := by
    have hleaves := b.leaves_afterTakes s (q.length + 1)
    rwa [List.drop_eq_nil_of_le (Nat.le_succ _)] at hleaves
  have heach : b.Leaves s [] (b.afterTakes s q.length) := by
    have hleaves := b.leaves_afterTakes s q.length
    rwa [List.drop_length] at hleaves
  have hone : b.Leaves s q.tail (b.take s).2 := by
    have hleaves := b.leaves_afterTakes s 1
    rwa [List.drop_one] at hleaves
  have htimes : s.receiveTimes q.length b now = _ := s.receiveTimes_now h (Nat.le_refl _)
  rw [List.take_length] at htimes
  refine ⟨⟨_, s.drainRaw_now h further, hall⟩, ⟨_, _, s.drain_now h further, hall, ?_, ?_, ?_⟩,
    ⟨_, _, s.newest_now h further, hall⟩, ⟨_, s.receiveOneOrNone_now h, hone⟩, ⟨_, htimes, heach⟩⟩
  · exact fun events => mapM_eq_ok_iff
  · exact fun fault => mapM_eq_error_iff
  · exact fun events hevents => decodeOne_getLast? (mapM_eq_ok_iff.mp hevents)

/-- A bus with a publisher and a plain reader, which holds some messages. -/
def unreadBus (unread : List Message) : Bus :=
  ({} : Bus).run ([.openPublisher "userFlag", .subscribe "userFlag" "127.0.0.1" false]
    ++ unread.map fun m => .send ⟨"userFlag"⟩ m)

/-- The subscriber of that reader. -/
def unreadSubscriber : Subscriber := { reader := 0, endpoint := "userFlag" }

/-- Between two events there is a message that does not decode. It spoils the drain, but neither the newest message nor
the other ones by themselves. -/
theorem retrievals_of_spoiltQueue : (unreadBus [[5, 1, 11], [7, 2], [6, 1, 11]]).gates.active = false
    ∧ (∃ b, unreadSubscriber.drain false 0 (unreadBus [[5, 1, 11], [7, 2], [6, 1, 11]]) .zero =
      .done b [] (.error (.badFlag 2)) ∧ b.queue unreadSubscriber = [])
    ∧ (∃ b notices, unreadSubscriber.newest false 0 (unreadBus [[5, 1, 11], [7, 2], [6, 1, 11]]) .zero =
      .done b notices (.ok (some ⟨6, true, .userFlag⟩)) ∧ b.queue unreadSubscriber = [])
    ∧ ∃ b, unreadSubscriber.receiveTimes 3 (unreadBus [[5, 1, 11], [7, 2], [6, 1, 11]]) .zero =
      .done b [] [.ok (some ⟨5, true, .userFlag⟩), .error (.badFlag 2), .ok (some ⟨6, true, .userFlag⟩)]
        ∧ b.queue unreadSubscriber = [] := by
  have hungated : (unreadBus [[5, 1, 11], [7, 2], [6, 1, 11]]).gates.active = false := rfl
  have hqueue : (unreadBus [[5, 1, 11], [7, 2], [6, 1, 11]]).queue unreadSubscriber =
      [[5, 1, 11], [7, 2], [6, 1, 11]] := by
    decide +kernel
  have hretrievals := unreadSubscriber.retrievals_of_queue _ .zero 0 hungated
  rw [hqueue] at hretrievals
  obtain ⟨-, ⟨b₁, result, hdrain, hleft₁, -, hfault, -⟩, ⟨b₂, notices, hnewest, hleft₂⟩, -, b₃, htimes, hleft₃⟩ :=
    hretrievals
  have hspoilt : result = .error (.badFlag 2) :=
    (hfault _).mpr ⟨[[5, 1, 11]], [7, 2], [[6, 1, 11]], rfl, fun m hm => ⟨⟨5, true, .userFlag⟩, by
      cases List.mem_singleton.mp hm
      rfl⟩, rfl⟩
  rw [hspoilt] at hdrain
  exact ⟨hungated, ⟨b₁, hdrain, hleft₁ unreadSubscriber⟩, ⟨b₂, notices, hnewest, hleft₂ unreadSubscriber⟩,
    ⟨b₃, htimes, hleft₃ unreadSubscriber⟩⟩

end Subscriber

end TopicHealth
