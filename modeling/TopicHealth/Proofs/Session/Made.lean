import TopicHealth.Proofs.Node.Open
import TopicHealth.Proofs.Session.Basic

/-!
# Making something

What was made on a bus has readers and publishers of its own, in front of those that were there; it has received
nothing yet, and nothing else has changed.

* `Bus.Undisturbed`: no queue was touched.
* `Made`: something was made; `made_subscriber`, `made_publisher`, `made_set`, `made_aggregator`, `made_node` for each
  kind of thing.
-/

namespace TopicHealth

namespace Bus

variable {b b' b'' : Bus}

/-- Every reader has what it had on an earlier bus, or is new and holds nothing. -/
structure Undisturbed (b b' : Bus) : Prop where
  serial : b.serial ≤ b'.serial
  readers : ∀ r' ∈ b'.readers,
    (∃ r ∈ b.readers, r.id = r'.id ∧ r.channel = r'.channel ∧ r.conflate = r'.conflate ∧ r.queue = r'.queue)
      ∨ b.serial ≤ r'.id ∧ r'.queue = []

namespace Undisturbed

theorem of_readers_subset (hserial : b.serial ≤ b'.serial) (h : b'.readers ⊆ b.readers) : Undisturbed b b' :=
  ⟨hserial, fun r hr => .inl ⟨r, h hr, rfl, rfl, rfl, rfl⟩⟩

theorem refl (b : Bus) : Undisturbed b b := of_readers_subset (Nat.le_refl _) (List.Subset.refl _)

theorem trans (h : Undisturbed b b') (h' : Undisturbed b' b'') : Undisturbed b b'' := by
  refine ⟨h.serial.trans h'.serial, fun r'' hr'' => ?_⟩
  rcases h'.readers r'' hr'' with ⟨r', hr', hid', hch', hconflate', hqueue'⟩ | ⟨hnew, hqueue⟩
  · rcases h.readers r' hr' with ⟨r, hr, hid, hch, hconflate, hqueue⟩ | ⟨hnew, hqueue⟩
    · exact .inl ⟨r, hr, hid.trans hid', hch.trans hch', hconflate.trans hconflate', hqueue.trans hqueue'⟩
    · exact .inr ⟨hid' ▸ hnew, hqueue'.symm.trans hqueue⟩
  · exact .inr ⟨h.serial.trans hnew, hqueue⟩

theorem retain (b : Bus) (s : Subscriber) : Undisturbed b (b.retain s) := by
  refine ⟨Nat.le_refl _, fun r' hr' => .inl ?_⟩
  obtain ⟨r, hr, rfl⟩ := List.mem_map.mp hr'
  refine ⟨r, hr, ?_⟩
  split_ifs <;> exact ⟨rfl, rfl, rfl, rfl⟩

theorem retainAll (b : Bus) (subs : List Subscriber) : Undisturbed b (subs.foldl Bus.retain b) := by
  induction subs generalizing b with
  | nil => exact refl b
  | cons s subs ih => exact (retain b s).trans (ih (b.retain s))

theorem release (b : Bus) (s : Subscriber) : Undisturbed b (b.release s) := by
  refine ⟨Nat.le_refl _, fun r' hr' => .inl ?_⟩
  obtain ⟨r, hr, rfl⟩ := List.mem_map.mp (List.mem_of_mem_filter hr')
  refine ⟨r, hr, ?_⟩
  split_ifs <;> exact ⟨rfl, rfl, rfl, rfl⟩

theorem releaseAll (b : Bus) (subs : List Subscriber) : Undisturbed b (subs.foldl Bus.release b) := by
  induction subs generalizing b with
  | nil => exact refl b
  | cons s subs ih => exact (release b s).trans (ih (b.release s))

end Undisturbed

/-- Skipping some numbers changes no reader. -/
theorem Renumbered.undisturbed (h : b.Renumbered b') : Undisturbed b b' := by
  obtain ⟨serial, hserial, rfl⟩ := h
  exact .of_readers_subset hserial (List.Subset.refl _)

end Bus

/-! ## What was made -/

/-- A holding was made on a bus, and nothing else has changed there. -/
structure Made (b : Bus) (h : Holding) (b' : Bus) : Prop where
  gates : b'.gates = b.gates
  undisturbed : b.Undisturbed b'
  shared : ∀ held, b.Shared held → b'.Shared (h.subscribers.map Subscriber.reader ++ held)
  published : ∀ publishers, b.Published publishers → b'.Published (h.publishers ++ publishers)

section Made

variable {b b' : Bus} {held : List Nat} {notices : List Notice}

theorem made_poller (b : Bus) : Made b (.poller {}) b := by
  constructor
  case gates => rfl
  case undisturbed => exact .refl b
  case shared => exact fun _ hb => hb
  case published => exact fun _ hb => hb

theorem made_publisher {endpoint : String} {p : Publisher} (h : b.openPublisher endpoint = ⟨b', notices, .ok p⟩) :
    Made b (.publisher p) b' := by
  have hpublished : ∀ publishers, b.Published publishers → b'.Published (p :: publishers) :=
    fun publishers hb => hb.opened h
  obtain ⟨-, -, rfl⟩ := Bus.of_openPublisher_ok h
  constructor
  case gates => rfl
  case undisturbed => exact .of_readers_subset (Nat.le_refl _) (List.Subset.refl _)
  case shared => exact fun held hb => hb.of_readers_eq rfl (Nat.le_refl _)
  case published => exact hpublished

/-- A set brings in the publishers that it has opened, and no reader. -/
theorem made_set {services : List Service} {ps : PublisherSet}
    (h : PublisherSet.open b services = ⟨b', notices, .ok ps⟩) : Made b (.publisherSet ps) b' := by
  have hopening := PublisherSet.opening_of_open h
  constructor
  case gates => exact hopening.gates
  case undisturbed => exact .of_readers_subset hopening.serial.ge (hopening.readers ▸ List.Subset.refl _)
  case shared => exact fun held hb => hb.of_readers_eq hopening.readers hopening.serial.ge
  case published => exact hopening.published

theorem made_subscriber {endpoint addr : String} {conflate : Bool} {s : Subscriber}
    (h : b.subscribe endpoint addr conflate = ⟨b', notices, .ok s⟩) : Made b (.subscriber s) b' := by
  cases hip : IpAddress.parse? addr with
  | none =>
    simp only [Bus.subscribe, hip] at h
    cases h
  | some ip =>
    have hact : b.act (.subscribe endpoint addr conflate) = b' := congrArg Outcome.bus h
    simp only [Bus.subscribe, hip] at h
    cases h
    constructor
    case gates => rfl
    case undisturbed =>
      refine ⟨Nat.le_succ _, fun r hr => ?_⟩
      rcases List.mem_append.mp hr with hr | hr
      · exact .inl ⟨r, hr, rfl, rfl, rfl, rfl⟩
      · rw [List.mem_singleton.mp hr]
        exact .inr ⟨Nat.le_refl _, rfl⟩
    case shared =>
      intro held hb
      rw [← hact]
      exact hb.subscribe hip
    case published => exact fun publishers hb => hb.of_claimed_eq rfl

/-- The readers of an aggregator that was opened hold nothing. -/
theorem Aggregator.undisturbed_of_open (hb : b.Shared held) {c : Tracker.Config} {a : Aggregator}
    (h : Aggregator.open b c = ⟨b', notices, .ok a⟩) : b.Undisturbed b' := by
  obtain ⟨ip, -, -, -, hconnected⟩ := connected_of_open hb.wellFormed h
  have hshared := shared_of_open hb h
  have hholds : ∀ s ∈ a.clones, ∃ r, b'.reader? s.reader = some r ∧ r.queue = [] := by
    intro s hs
    have hs : ∃ p ∈ a.subscribers, p.2 = s := by
      rw [clones, hconnected.poller, List.mem_append, List.mem_map, List.mem_map] at hs
      rcases hs with ⟨p, hp, hps⟩ | ⟨p, hp, hps⟩
      · exact ⟨p, List.mem_of_mem_filter hp, hps⟩
      · exact ⟨p, hp, hps⟩
    obtain ⟨p, hp, rfl⟩ := hs
    obtain ⟨r, hr, -, -, hqueue⟩ := hconnected.holds p hp
    exact ⟨r, hr, hqueue⟩
  refine ⟨(readersOnly_of_open h).serial, fun r hr => ?_⟩
  by_cases hold : r.id < b.serial
  · left
    have hmem : r ∈ b'.older b.serial := List.mem_filter.mpr ⟨hr, decide_eq_true hold⟩
    rw [older_of_open h, hb.wellFormed.older_eq] at hmem
    exact ⟨r, hmem, rfl, rfl, rfl, rfl⟩
  · right
    have hnew := Nat.le_of_not_lt hold
    -- The reader is new, so it is the aggregator that holds its subscribers.
    rcases List.mem_append.mp (hshared.mem_of_mem_readers hr) with hmem | hmem
    · obtain ⟨s, hs, hid⟩ := List.mem_map.mp hmem
      obtain ⟨r', hr', hqueue⟩ := hholds s hs
      rw [hid, hshared.wellFormed.reader?_eq_some_iff.mpr ⟨hr, rfl⟩] at hr'
      cases hr'
      exact ⟨hnew, hqueue⟩
    · exact absurd (hb.lt_serial hmem) hold

/-- An aggregator brings in readers of its own, which hold nothing. -/
theorem made_aggregator (hb : b.Shared held) {c : Tracker.Config} {a : Aggregator}
    (h : Aggregator.open b c = ⟨b', notices, .ok a⟩) : Made b (.aggregator a) b' := by
  have hreaders := Aggregator.readersOnly_of_open h
  constructor
  case gates => exact hreaders.gates
  case undisturbed => exact Aggregator.undisturbed_of_open hb h
  case shared => exact fun held hb => Aggregator.shared_of_open hb h
  case published => exact fun publishers hb => hb.of_claimed_eq hreaders.claimed

/-- The publishers of a node are made after its subscribers. -/
theorem made_node (hb : b.Shared held) {c : Node.Config} {n : Node} (h : Node.open b c = ⟨b', notices, .ok n⟩) :
    Made b (.node n) b' := by
  obtain ⟨b₁, _, _, haggregator, hset⟩ := Node.exists_open_of_open h
  have hsubscribers := made_aggregator hb haggregator
  have hpublishers := made_set hset
  constructor
  case gates => exact hpublishers.gates.trans hsubscribers.gates
  case undisturbed => exact hsubscribers.undisturbed.trans hpublishers.undisturbed
  case shared => exact fun held hb => hpublishers.shared _ (hsubscribers.shared held hb)
  case published => exact fun publishers hb => hpublishers.published _ (hsubscribers.published publishers hb)

end Made

end TopicHealth
