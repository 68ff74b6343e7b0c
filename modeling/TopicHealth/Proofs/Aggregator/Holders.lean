import TopicHealth.Proofs.Aggregator.Open
import TopicHealth.Proofs.Bus.Holders

/-!
# The subscribers of an aggregator

An aggregator holds two subscribers of the reader of a polled service, of which one is its poller's, and one of any
other. Opening it changes readers only, and leaves the older ones alone; what it holds is dropped with it.

* `bus_of_open_error`: an aggregator that could not be opened.
* `shared_of_open`: the subscribers of one that was opened are held with those that were.
* `readersOnly_of_open`, `older_of_open`: what opening leaves alone.
* `Bus.Shared.readers_releaseAll`: the older readers are left when the holders of the newer ones are gone.
-/

namespace TopicHealth

namespace Bus

variable {b b' b'' : Bus} {n : Nat}

/-! ## Changes of readers -/

/-- From one bus to another only the readers change, and the number that is given out next. -/
structure ReadersOnly (b b' : Bus) : Prop where
  claimed : b'.claimed = b.claimed
  gates : b'.gates = b.gates
  signals : b'.signals = b.signals
  serial : b.serial ≤ b'.serial

namespace ReadersOnly

theorem refl (b : Bus) : ReadersOnly b b := ⟨rfl, rfl, rfl, Nat.le_refl _⟩

theorem trans (h : ReadersOnly b b') (h' : ReadersOnly b' b'') : ReadersOnly b b'' :=
  ⟨h'.claimed.trans h.claimed, h'.gates.trans h.gates, h'.signals.trans h.signals, h.serial.trans h'.serial⟩

theorem subscribe (b : Bus) (endpoint addr : String) (conflate : Bool) :
    ReadersOnly b (b.act (.subscribe endpoint addr conflate)) := by
  simp only [Bus.act, Bus.subscribe]
  cases IpAddress.parse? addr with
  | none => exact refl b
  | some ip => exact ⟨rfl, rfl, rfl, Nat.le_succ _⟩

theorem retain (b : Bus) (s : Subscriber) : ReadersOnly b (b.act (.retain s)) := ⟨rfl, rfl, rfl, Nat.le_refl _⟩

/-- To drop subscribers changes the readers and nothing else of the bus. -/
theorem releaseAll (b : Bus) (subs : List Subscriber) : ReadersOnly b (subs.foldl Bus.release b) := by
  induction subs generalizing b with
  | nil => exact refl b
  | cons s subs ih =>
    have hfirst : ReadersOnly b (b.release s) := ⟨rfl, rfl, rfl, Nat.le_refl _⟩
    exact hfirst.trans (ih (b.release s))

/-- Where the readers are the same after all, nothing is left but the numbers. -/
theorem renumbered (h : ReadersOnly b b') (hreaders : b'.readers = b.readers) : b.Renumbered b' := by
  refine ⟨b'.serial, h.serial, ?_⟩
  rw [← hreaders, ← h.claimed, ← h.gates, ← h.signals]

end ReadersOnly

/-- The readers whose numbers are less than a number. -/
def older (b : Bus) (n : Nat) : List Reader := b.readers.filter fun r => r.id < n

theorem filter_filterMap_act {action : Action} (readers : List Reader)
    (hkeep : ∀ r ∈ readers, r.id < n → r.act action = some r) :
    (readers.filterMap fun r => r.act action).filter (fun r => r.id < n) = readers.filter fun r => r.id < n := by
  induction readers with
  | nil => rfl
  | cons r readers ih =>
    have hrest := ih fun r' hr' => hkeep r' (List.mem_cons_of_mem _ hr')
    by_cases hr : r.id < n
    · rw [List.filterMap_cons, hkeep r List.mem_cons_self hr]
      simp [hr, hrest]
    · -- Whatever becomes of the reader, it keeps its number.
      rw [List.filter_cons_of_neg (by simpa using hr), List.filterMap_cons]
      cases hact : r.act action with
      | none => exact hrest
      | some r' =>
        have hr' : ¬ r'.id < n := (Reader.act_eq_some hact).1 ▸ hr
        rw [List.filter_cons_of_neg (by simpa using hr')]
        exact hrest

/-- The readers that were there before are left as they are by an action that leaves each of them alone. -/
theorem older_act {action : Action} (hn : n ≤ b.serial) (hkeep : ∀ r ∈ b.readers, r.id < n → r.act action = some r) :
    (b.act action).older n = b.older n := by
  have hadded : (b.added action).toList.filter (fun r => r.id < n) = [] := by
    rw [List.filter_eq_nil_iff]
    intro r hr
    rw [added_id (Option.mem_toList.mp hr)]
    simpa using hn
  rw [older, readers_act, List.filter_append, hadded, List.append_nil]
  exact filter_filterMap_act b.readers hkeep

/-- A new reader is not among those that were there before. -/
theorem older_subscribe (hn : n ≤ b.serial) (endpoint addr : String) (conflate : Bool) :
    (b.act (.subscribe endpoint addr conflate)).older n = b.older n :=
  older_act hn fun _ _ _ => rfl

theorem older_retain (hn : n ≤ b.serial) {s : Subscriber} (hs : n ≤ s.reader) :
    (b.act (.retain s)).older n = b.older n := by
  refine older_act hn fun r _ hr => ?_
  have hne : ¬ r.id = s.reader := by omega
  simp [Reader.act, hne]

theorem older_release (hn : n ≤ b.serial) {s : Subscriber} (hs : n ≤ s.reader) :
    (b.release s).older n = b.older n := by
  change (b.act (.release s)).older n = b.older n
  refine older_act hn fun r _ hr => ?_
  have hne : ¬ r.id = s.reader := by omega
  simp [Reader.act, hne]

/-- To drop the clones of new readers makes no difference to those that were there before. -/
theorem older_releaseAll (hn : n ≤ b.serial) {subs : List Subscriber} (hsubs : ∀ s ∈ subs, n ≤ s.reader) :
    (subs.foldl Bus.release b).older n = b.older n := by
  induction subs generalizing b with
  | nil => rfl
  | cons s subs ih =>
    rw [List.foldl_cons, ih (b := b.release s) hn fun t ht => hsubs t (List.mem_cons_of_mem _ ht)]
    exact older_release hn (hsubs s List.mem_cons_self)

/-- All readers of a bus are older than the next one. -/
theorem WellFormed.older_eq (h : b.WellFormed) : b.older b.serial = b.readers := by
  rw [older, List.filter_eq_self]
  intro r hr
  exact decide_eq_true (h.lt_serial r hr)

/-- When all holders of the newer readers are gone, the older ones are left, as they were. -/
theorem Shared.readers_releaseAll {held : List Nat} {subs : List Subscriber}
    (h : b.Shared (subs.map Subscriber.reader ++ held)) (hn : n ≤ b.serial) (hsubs : ∀ s ∈ subs, n ≤ s.reader)
    (hheld : ∀ id ∈ held, id < n) : (subs.foldl Bus.release b).readers = b.older n := by
  rw [← older_releaseAll hn hsubs, older, eq_comm, List.filter_eq_self]
  intro r hr
  exact decide_eq_true (hheld r.id (h.releaseAll.mem_of_mem_readers hr))

end Bus

namespace Aggregator

variable {addr : String} {ip : IpAddress} {nonPolled services : List Service} {b b' : Bus} {held : List Nat}
  {c : Tracker.Config} {notices : List Notice} {subs : List (Service × Subscriber)} {poller : Poller} {a : Aggregator}

/-- The subscribers that an aggregator holds, its poller's among them. -/
def clones (a : Aggregator) : List Subscriber := a.poller.subscribers ++ a.subscribers.map (·.2)

/-- To drop an aggregator is to drop its clones one after another. -/
theorem close_eq (a : Aggregator) (b : Bus) : a.close b = a.clones.foldl Bus.release b := by
  rw [clones, List.foldl_append]
  rfl

/-! ## Connecting -/

/-- With an address to subscribe at, nothing can go wrong. -/
theorem exists_connect (hip : IpAddress.parse? addr = some ip) (nonPolled services : List Service) (b : Bus) :
    ∃ b' notices connected, connect addr nonPolled services b = ⟨b', notices, .ok connected⟩ := by
  induction services generalizing b with
  | nil => exact ⟨b, [], _, rfl⟩
  | cons s services ih =>
    obtain ⟨b', notices, connected, hrest⟩ := ih (afterSubscriber addr nonPolled b s)
    simp only [afterSubscriber, nextSubscriber, Bus.act, Bus.subscribe, hip] at hrest
    unfold connect
    simp only [Bus.subscribe, hip, hrest]
    exact ⟨_, _, _, rfl⟩

/-- A connection fails at once or not at all. -/
theorem bus_of_connect_error {fault : OpenFault}
    (h : connect addr nonPolled services b = ⟨b', notices, .error fault⟩) : b' = b := by
  cases hip : IpAddress.parse? addr with
  | some ip =>
    obtain ⟨_, _, _, hok⟩ := exists_connect hip nonPolled services b
    rw [hok] at h
    cases h
  | none =>
    cases services with
    | nil => cases h
    | cons s services =>
      unfold connect at h
      simp only [Bus.subscribe, hip] at h
      cases h
      rfl

theorem readersOnly_afterSubscriber (addr : String) (nonPolled : List Service) (b : Bus) (s : Service) :
    b.ReadersOnly (afterSubscriber addr nonPolled b s) := by
  have hsubscribed := Bus.ReadersOnly.subscribe b s.name addr true
  simp only [afterSubscriber]
  split
  · exact hsubscribed.trans (.retain _ _)
  · exact hsubscribed

theorem older_afterSubscriber {n : Nat} (hn : n ≤ b.serial) (addr : String) (nonPolled : List Service) (s : Service) :
    (afterSubscriber addr nonPolled b s).older n = b.older n := by
  have hsubscribed := Bus.older_subscribe hn s.name addr true
  have hserial := (Bus.ReadersOnly.subscribe b s.name addr true).serial
  simp only [afterSubscriber]
  split
  · rw [Bus.older_retain (hn.trans hserial) hn]
    exact hsubscribed
  · exact hsubscribed

/-- A polled service has its subscriber held twice. -/
theorem shared_afterSubscriber (hip : IpAddress.parse? addr = some ip) (hb : b.Shared held) (nonPolled : List Service)
    (s : Service) : (afterSubscriber addr nonPolled b s).Shared
      ((if !nonPolled.contains s then [b.serial] else []) ++ b.serial :: held) := by
  have hsubscribed : (b.act (.subscribe s.name addr true)).Shared (b.serial :: held) := hb.subscribe hip
  simp only [afterSubscriber]
  split
  · exact hsubscribed.retain (s := nextSubscriber b s) List.mem_cons_self
  · exact hsubscribed

theorem readersOnly_of_connect (hip : IpAddress.parse? addr = some ip)
    (h : connect addr nonPolled services b = ⟨b', notices, .ok (subs, poller)⟩) : b.ReadersOnly b' := by
  induction services generalizing b notices subs poller with
  | nil =>
    cases h
    exact .refl b'
  | cons s services ih =>
    obtain ⟨_, _, _, hrest, -, -⟩ := connect_cons hip h
    exact (readersOnly_afterSubscriber addr nonPolled b s).trans (ih hrest)

theorem older_of_connect {n : Nat} (hip : IpAddress.parse? addr = some ip) (hn : n ≤ b.serial)
    (h : connect addr nonPolled services b = ⟨b', notices, .ok (subs, poller)⟩) : b'.older n = b.older n := by
  induction services generalizing b notices subs poller with
  | nil =>
    cases h
    rfl
  | cons s services ih =>
    obtain ⟨_, _, _, hrest, -, -⟩ := connect_cons hip h
    have hserial := (readersOnly_afterSubscriber addr nonPolled b s).serial
    rw [ih (hn.trans hserial) hrest, older_afterSubscriber hn]

theorem shared_of_connect (hip : IpAddress.parse? addr = some ip) (hb : b.Shared held)
    (h : connect addr nonPolled services b = ⟨b', notices, .ok (subs, poller)⟩) :
    b'.Shared ((poller.subscribers ++ subs.map (·.2)).map Subscriber.reader ++ held) := by
  induction services generalizing b held notices subs poller with
  | nil =>
    cases h
    exact hb
  | cons s services ih =>
    obtain ⟨more, subs', poller', hrest, rfl, rfl⟩ := connect_cons hip h
    have hshared := ih (shared_afterSubscriber hip hb nonPolled s) hrest
    refine ⟨hshared.wellFormed, fun id => ?_, hshared.pos⟩
    -- What is held twice and what is held once of the new reader stands in front of the rest.
    rw [hshared.clones id]
    split
    · simp only [nextSubscriber, List.map_append, List.map_cons, List.count_append, List.count_cons, List.count_nil]
      omega
    · simp only [nextSubscriber, List.map_append, List.map_cons, List.count_append, List.count_cons, List.count_nil]
      omega

/-! ## Opening -/

/-- An aggregator that does not open leaves nothing behind. -/
theorem bus_of_open_error {fault : OpenFault} (h : Aggregator.open b c = ⟨b', notices, .error fault⟩) : b' = b := by
  unfold Aggregator.open at h
  split at h
  · cases h
    rfl
  · split at h
    · rename_i hconnect
      cases h
      exact bus_of_connect_error hconnect
    · cases h

/-- An aggregator that opens has connected to its services. -/
theorem exists_connect_of_open (h : Aggregator.open b c = ⟨b', notices, .ok a⟩) :
    ∃ ip notices, IpAddress.parse? c.addr = some ip
      ∧ connect c.addr c.policy.nonPolled c.services b = ⟨b', notices, .ok (a.subscribers, a.poller)⟩ := by
  unfold Aggregator.open at h
  split at h
  · cases h
  · rename_i hvalid
    obtain ⟨hservices, -, -⟩ := (Tracker.Config.validate_eq_ok_iff c).mp hvalid
    split at h
    · cases h
    · rename_i hconnect
      cases h
      obtain ⟨ip, hip⟩ := parse?_of_connect hservices hconnect
      exact ⟨ip, _, hip, hconnect⟩

theorem readersOnly_of_open (h : Aggregator.open b c = ⟨b', notices, .ok a⟩) : b.ReadersOnly b' := by
  obtain ⟨ip, _, hip, hconnect⟩ := exists_connect_of_open h
  exact readersOnly_of_connect hip hconnect

theorem older_of_open (h : Aggregator.open b c = ⟨b', notices, .ok a⟩) : b'.older b.serial = b.older b.serial := by
  obtain ⟨ip, _, hip, hconnect⟩ := exists_connect_of_open h
  exact older_of_connect hip (Nat.le_refl _) hconnect

/-- What an aggregator holds when it has opened is one more clone for each of its subscribers. -/
theorem shared_of_open (hb : b.Shared held) (h : Aggregator.open b c = ⟨b', notices, .ok a⟩) :
    b'.Shared (a.clones.map Subscriber.reader ++ held) := by
  obtain ⟨ip, _, hip, hconnect⟩ := exists_connect_of_open h
  exact shared_of_connect hip hb hconnect

/-- The readers of an aggregator are new. -/
theorem serial_le_of_open (hb : b.WellFormed) (h : Aggregator.open b c = ⟨b', notices, .ok a⟩) :
    ∀ s ∈ a.clones, b.serial ≤ s.reader := by
  obtain ⟨ip, -, -, -, hconnected⟩ := connected_of_open hb h
  intro s hs
  rcases List.mem_append.mp hs with hs | hs
  · rw [hconnected.poller] at hs
    obtain ⟨p, hp, rfl⟩ := List.mem_map.mp hs
    exact hconnected.new p (List.mem_of_mem_filter hp)
  · obtain ⟨p, hp, rfl⟩ := List.mem_map.mp hs
    exact hconnected.new p hp

end Aggregator

end TopicHealth
