import TopicHealth.Proofs.Bus.Keep
import TopicHealth.Proofs.Bus.Yield
import TopicHealth.Proofs.Session.Made

/-!
# What a session holds

Whatever a user does, the flag of an endpoint counts the publishers that the user holds of it, and the bus keeps a
reader as long as the user holds a subscriber of it, be it as a clone of a poller or of an aggregator.

* `Rearranged`: what a move can do that carries no message; `rearranged_step` says so of each such move.
* `Sound`, `sound_after`: the bus after any moves is that of what is held.
-/

namespace TopicHealth

namespace Bus

variable {b b' : Bus} {held : List Nat}

theorem ReadersOnly.retainAll (b : Bus) (subs : List Subscriber) : ReadersOnly b (subs.foldl Bus.retain b) := by
  induction subs generalizing b with
  | nil => exact refl b
  | cons s subs ih => exact (ReadersOnly.retain b s).trans (ih (b.retain s))

/-- Some holders more of readers that are held. -/
theorem Shared.retainAll (h : b.Shared held) {subs : List Subscriber} (hsubs : ∀ s ∈ subs, s.reader ∈ held) :
    (subs.foldl Bus.retain b).Shared (subs.map Subscriber.reader ++ held) := by
  induction subs generalizing b held with
  | nil => exact h
  | cons s subs ih =>
    obtain ⟨hs, hrest⟩ := List.forall_mem_cons.mp hsubs
    have hretained := ih (h.retain hs) fun t ht => List.mem_cons_of_mem _ (hrest t ht)
    exact hretained.perm List.perm_middle

/-- Which readers there are and which flags are set does not change with messages and gates. -/
theorem stable_shared (held : List Nat) (publishers : List Publisher) :
    Stable fun b => b.Shared held ∧ b.Published publishers := by
  constructor
  case take =>
    rintro b s ⟨hshared, hpublished⟩
    exact ⟨hshared.take s, hpublished.of_claimed_eq rfl⟩
  case gates =>
    rintro b gates ⟨hshared, hpublished⟩
    exact ⟨hshared.of_readers_eq rfl (Nat.le_refl _), hpublished.of_claimed_eq rfl⟩

end Bus

/-! ## Values of calls -/

theorem Poller.poll_yields [Clock] (p : Poller) (timeout : Duration) (bus : Bus) (now : Duration) :
    (p.poll timeout bus now).Yields fun ready => ∀ s ∈ ready, s ∈ p.subscribers := by
  have hready : ∀ bus : Bus, ∀ s ∈ p.ready bus, s ∈ p.subscribers := fun _ _ hs => List.mem_of_mem_filter hs
  rw [poll_eq]
  split_ifs
  · exact hready bus
  · exact fun bus now => hready bus

/-- An update changes the tracker of an aggregator and nothing else of it. -/
theorem Aggregator.update_yields_tracker [Clock] (a : Aggregator) (timeout : Duration) (bus : Bus) (now : Duration) :
    (a.update timeout bus now).Yields fun a' => ∃ tracker, a' = { a with tracker } := by
  have hpoll : (a.poller.poll timeout bus now).Yields fun _ => True := Call.yields_true _
  refine hpoll.bind fun ready bus now _ => ?_
  have hreceive : (receiveAll (ready ++ a.nonPolled) bus now).Yields fun _ => True := Call.yields_true _
  refine hreceive.bind fun batch bus now _ => ?_
  rw [tick]
  split
  · exact ⟨_, rfl⟩
  · trivial

namespace Session

variable {σ τ : Session} {place : Nat} {h : Holding} {move : Move}

/-! ## Moves without messages -/

/-- The move carries no message and leaves the gates alone. -/
def Move.Quiet : Move → Prop
  | .send .. | .receive .. | .update .. | .setGates _ => False
  | _ => True

/-- Every other move carries messages or sets the gates. -/
@[elab_as_elim]
theorem Move.cases_quiet {motive : Move → Prop} (quiet : ∀ move, move.Quiet → motive move)
    (send : ∀ place service m, motive (.send place service m))
    (receive : ∀ place nonBlocking start, motive (.receive place nonBlocking start))
    (update : ∀ place timeout start, motive (.update place timeout start))
    (setGates : ∀ gates, motive (.setGates gates)) (move : Move) : motive move := by
  cases move with
  | send place service m => exact send place service m
  | receive place nonBlocking start => exact receive place nonBlocking start
  | update place timeout start => exact update place timeout start
  | setGates gates => exact setGates gates
  | _ => exact quiet _ trivial

/-- What a move can make of a session that carries no message and leaves the gates alone. -/
inductive Rearranged (σ : Session) : Session → Prop
  | renumbered {b : Bus} (hb : σ.bus.Renumbered b) : Rearranged σ { σ with bus := b }
  | made {h : Holding} {b : Bus} (hmade : Made σ.bus h b) : Rearranged σ ⟨b, σ.holdings ++ [some h]⟩
  | shared {subs : List Subscriber} (hsubs : ∀ s ∈ subs, s ∈ σ.subscribers) : Rearranged σ (σ.share subs)
  | retimed {place : Nat} {s : Subscriber} (hplace : σ.get? place = some (.subscriber s)) (timeout : Option Duration) :
    Rearranged σ (σ.put place (some (.subscriber { s with timeout })) σ.bus)
  | registered {place : Nat} {p : Poller} {s : Subscriber} (hplace : σ.get? place = some (.poller p))
    (hs : s ∈ σ.subscribers) : Rearranged σ (σ.put place (some (.poller (p.register σ.bus s).2)) (σ.bus.retain s))
  | dropped {place : Nat} {h : Holding} (hplace : σ.get? place = some h) :
    Rearranged σ (σ.put place none (h.drop σ.bus))
  | signals (signals : List Bool) : Rearranged σ { σ with bus := { σ.bus with signals } }

theorem Rearranged.refl (σ : Session) : Rearranged σ σ := .renumbered σ.bus.renumbered_refl

theorem mem_subscribers_of_get? {s : Subscriber} (hplace : σ.get? place = some h) (hs : s ∈ h.subscribers) :
    s ∈ σ.subscribers :=
  mem_all_iff.mpr ⟨place, h, hplace, hs⟩

theorem mem_publishers_of_get? {p : Publisher} (hplace : σ.get? place = some h) (hp : p ∈ h.publishers) :
    p ∈ σ.publishers :=
  mem_all_iff.mpr ⟨place, h, hplace, hp⟩

/-- A session whose bus is that of what is held. -/
structure Sound (σ : Session) : Prop where
  shared : σ.bus.Shared (σ.subscribers.map Subscriber.reader)
  published : σ.bus.Published σ.publishers

/-- What is left of a call that leaves the bus alone. -/
theorem call_leaves_of_unchanged {P : Session → Prop} {α : Type} {op : Operation α} {start : Duration}
    {next : α → Session → Session} {reply : α → Reply} (hkeeps : op.Keeps fun b => b = σ.bus) (hbroken : P σ)
    (hdone : ∀ value, ((op σ.bus start).run start []).ending = .done value → P (next value σ)) :
    P (σ.call op start next reply).1 := by
  have hbus : ((op σ.bus start).run start []).bus = σ.bus := (hkeeps σ.bus start rfl).run start
  have hsame : { σ with bus := ((op σ.bus start).run start []).bus } = σ := by
    rw [hbus]
  apply call_leaves
  · rw [hsame]
    exact hbroken
  · rw [hsame]
    exact hdone

/-- A quiet move makes, shares, drops or sets something, and touches no message. -/
theorem rearranged_step [Clock] (hσ : σ.Sound) (hquiet : move.Quiet) : Rearranged σ (σ.step move) := by
  cases move with
  | openPublisher endpoint =>
    refine make_leaves (fun b notices fault hopen => ?_) fun b notices p hopen => .made (made_publisher hopen)
    rw [Bus.bus_of_openPublisher_error hopen]
    exact .refl σ
  | openSet services =>
    refine make_leaves (fun b notices fault hopen => ?_) fun b notices ps hopen => .made (made_set hopen)
    rw [PublisherSet.bus_of_open_error hopen]
    exact .refl σ
  | subscribe endpoint addr conflate =>
    refine make_leaves (fun b notices fault hopen => ?_) fun b notices s hopen => .made (made_subscriber hopen)
    rw [Bus.bus_of_subscribe_error hopen]
    exact .refl σ
  | openPoller => exact .made (made_poller σ.bus)
  | openAggregator c =>
    refine make_leaves (fun b notices fault hopen => ?_) fun b notices a hopen =>
      .made (made_aggregator hσ.shared hopen)
    rw [Aggregator.bus_of_open_error hopen]
    exact .refl σ
  -- A node that cannot be opened has used up numbers, as it opens its aggregator before its set.
  | openNode c =>
    refine make_leaves (fun b notices fault hopen => .renumbered ?_) fun b notices n hopen =>
      .made (made_node hσ.shared hopen)
    exact Node.renumbered_of_open hσ.shared hopen
  | clone place =>
    refine using?_leaves (.refl σ) fun s hs => .shared ?_
    rw [List.forall_mem_singleton]
    exact mem_subscribers_of_get? (subscriber?_eq_some_iff.mp hs) List.mem_cons_self
  | setTimeout place timeout =>
    exact using?_leaves (.refl σ) fun s hs => .retimed (subscriber?_eq_some_iff.mp hs) timeout
  | register poller subscriber =>
    refine using?_leaves (.refl σ) fun p hp => using?_leaves (.refl σ) fun s hs => ?_
    refine .registered (poller?_eq_some_iff.mp hp) ?_
    exact mem_subscribers_of_get? (subscriber?_eq_some_iff.mp hs) List.mem_cons_self
  | drop place => exact using?_leaves (.refl σ) fun h hplace => .dropped hplace
  | readersUpdated place service => exact usingPublisher_leaves (.refl σ) fun p _ => .refl σ
  | awaitReaders place service timeout looks keep start =>
    refine using?_leaves (.refl σ) fun ps _ => ?_
    have hkeeps := ps.awaitReaders_keeps (P := fun b => b = σ.bus) service timeout looks keep
    exact call_leaves_of_unchanged hkeeps (.refl σ) fun _ _ => .refl σ
  | pending place => exact using?_leaves (.refl σ) fun s _ => .refl σ
  | poll place timeout start =>
    refine using?_leaves (.refl σ) fun p hp => ?_
    refine call_leaves_of_unchanged (p.poll_keeps timeout) (.refl σ) fun ready hready => .shared fun s hs => ?_
    -- What a poll gives are clones of subscribers that the poller holds.
    have hmem := (p.poll_yields timeout σ.bus start).of_run hready s hs
    exact mem_subscribers_of_get? (poller?_eq_some_iff.mp hp) hmem
  | setSignals signals => exact .signals signals
  | send | receive | update | setGates => cases hquiet

/-! ## Sound sessions -/

theorem sound_empty : Sound {} := by
  constructor
  case shared =>
    refine ⟨Bus.wellFormed_empty, fun id => rfl, fun r hr => ?_⟩
    cases hr
  case published =>
    exact ⟨fun endpoint => rfl⟩

theorem subscribers_share (σ : Session) (subs : List Subscriber) :
    (σ.share subs).subscribers = σ.subscribers ++ subs := by
  simp [share, subscribers, all, Holding.subscribers, List.flatMap_map, List.flatMap_singleton']

theorem publishers_share (σ : Session) (subs : List Subscriber) : (σ.share subs).publishers = σ.publishers := by
  simp [share, publishers, all, Holding.publishers, List.flatMap_map]

/-- A holding was replaced by one with the same publishers and some subscribers more, clones of what is held. -/
theorem Sound.put {h' : Holding} {b : Bus} (more : List Subscriber) (hplace : σ.get? place = some h)
    (hpublishers : h'.publishers = h.publishers)
    (hsubscribers : h'.subscribers.map Subscriber.reader =
      h.subscribers.map Subscriber.reader ++ more.map Subscriber.reader)
    (hshared : b.Shared (more.map Subscriber.reader ++ σ.subscribers.map Subscriber.reader))
    (hpublished : b.Published σ.publishers) : (σ.put place (some h') b).Sound := by
  constructor
  case shared =>
    -- The old holding is counted on both sides, and taken off both in the end.
    have hperm := (perm_all_put (f := Holding.subscribers) hplace (some h') b).map Subscriber.reader
    rw [List.map_append, List.map_append, Option.elim_some, hsubscribers] at hperm
    refine hshared.perm ((List.perm_append_right_iff (h.subscribers.map Subscriber.reader)).mp ?_)
    refine List.Perm.trans ?_ hperm.symm
    rw [List.append_assoc, ← List.append_assoc (List.map Subscriber.reader (σ.all Holding.subscribers))]
    exact List.perm_append_comm
  case published =>
    have hperm := perm_all_put (f := Holding.publishers) hplace (some h') b
    rw [Option.elim_some, hpublishers] at hperm
    exact hpublished.congr_perm ((List.perm_append_right_iff _).mp hperm).symm

theorem Sound.drop (hσ : σ.Sound) (hplace : σ.get? place = some h) : (σ.put place none (h.drop σ.bus)).Sound := by
  have hsubscribers := (perm_all_put (f := Holding.subscribers) hplace none (h.drop σ.bus)).map Subscriber.reader
  have hpublishers := perm_all_put (f := Holding.publishers) hplace none (h.drop σ.bus)
  rw [Option.elim_none, List.append_nil] at hsubscribers hpublishers
  rw [List.map_append] at hsubscribers
  have hshared := (hσ.shared.perm (hsubscribers.symm.trans List.perm_append_comm)).releaseAll
  have hpublished := hσ.published.congr_perm (hpublishers.symm.trans List.perm_append_comm)
  have hreaders := Bus.ReadersOnly.releaseAll σ.bus h.subscribers
  -- First the subscribers go, which leaves the publishers alone, and then those go too.
  have hpublished' := (hpublished.of_claimed_eq hreaders.claimed).closeAll
  constructor
  case shared =>
    change (h.drop σ.bus).Shared _
    rw [h.drop_eq, Bus.closeAll_eq]
    exact hshared.of_readers_eq rfl (Nat.le_refl _)
  case published =>
    change (h.drop σ.bus).Published _
    rw [h.drop_eq]
    exact hpublished'

/-- The holders of readers and of endpoints are counted anew after each kind of change. -/
theorem Rearranged.sound (h : Rearranged σ τ) (hσ : σ.Sound) : τ.Sound := by
  cases h with
  | renumbered hb =>
    have hshared := hσ.shared.renumbered hb
    obtain ⟨serial, -, rfl⟩ := hb
    exact ⟨hshared, hσ.published.of_claimed_eq rfl⟩
  | made hmade =>
    constructor
    case shared =>
      rw [subscribers, all_concat, List.map_append]
      exact (hmade.shared _ hσ.shared).perm List.perm_append_comm
    case published =>
      rw [publishers, all_concat]
      exact (hmade.published _ hσ.published).congr_perm List.perm_append_comm
  | shared hsubs =>
    rename_i subs
    have hreaders := Bus.ReadersOnly.retainAll σ.bus subs
    constructor
    case shared =>
      rw [subscribers_share, List.map_append]
      exact (hσ.shared.retainAll fun s hs => List.mem_map_of_mem (hsubs s hs)).perm List.perm_append_comm
    case published =>
      rw [publishers_share]
      exact hσ.published.of_claimed_eq hreaders.claimed
  | retimed hplace timeout => exact .put [] hplace rfl rfl hσ.shared hσ.published
  -- The poller retains the subscriber first, and so holds a clone of it.
  | registered hplace hs =>
    rename_i place p s
    have hretained : (σ.bus.retain s).Shared (s.reader :: σ.subscribers.map Subscriber.reader) :=
      hσ.shared.retain (List.mem_map_of_mem hs)
    refine .put [s] hplace rfl ?_ hretained (hσ.published.of_claimed_eq rfl)
    exact List.map_append
  | dropped hplace => exact hσ.drop hplace
  | signals signals =>
    exact ⟨hσ.shared.of_readers_eq rfl (Nat.le_refl _), hσ.published.of_claimed_eq rfl⟩

/-- Receives keep a session sound, however they end. -/
theorem Sound.call {α : Type} {op : Operation α} {start : Duration} {next : α → Session → Session} {reply : α → Reply}
    (hσ : σ.Sound) (hkeeps : ∀ P, Bus.Stable P → op.Keeps P)
    (hnext : ∀ value b, b.Shared (σ.subscribers.map Subscriber.reader) → b.Published σ.publishers →
      ((op σ.bus start).run start []).ending = .done value → (next value { σ with bus := b }).Sound) :
    (σ.call op start next reply).1.Sound := by
  obtain ⟨hshared, hpublished⟩ :=
    (hkeeps _ (Bus.stable_shared _ _) σ.bus start ⟨hσ.shared, hσ.published⟩).run start
  apply call_leaves
  · exact ⟨hshared, hpublished⟩
  · intro value hvalue
    exact hnext value _ hshared hpublished hvalue

/-- Whatever the user does, what is counted is what is held. -/
theorem Sound.step [Clock] (hσ : σ.Sound) (move : Move) : (σ.step move).Sound := by
  cases move using Move.cases_quiet with
  | quiet move hquiet => exact (rearranged_step hσ hquiet).sound hσ
  | send place service m =>
    refine usingPublisher_leaves hσ fun p _ => ?_
    exact ⟨hσ.shared.send p m, hσ.published.of_claimed_eq rfl⟩
  | receive place nonBlocking start =>
    refine using?_leaves hσ fun s _ => hσ.call (fun P hP => s.receive_keeps hP nonBlocking) ?_
    intro value b hshared hpublished _
    exact ⟨hshared, hpublished⟩
  | update place timeout start =>
    refine using?_leaves hσ fun a ha => hσ.call (fun P hP => a.update_keeps hP timeout) ?_
    intro value b hshared hpublished hvalue
    -- An update changes the tracker of the aggregator, not what the aggregator holds.
    obtain ⟨tracker, rfl⟩ := (a.update_yields_tracker timeout σ.bus start).of_run hvalue
    have hplace : get? { σ with bus := b } place = some (.aggregator a) := aggregator?_eq_some_iff.mp ha
    refine Sound.put [] hplace rfl ?_ hshared hpublished
    exact (List.append_nil _).symm
  | setGates gates =>
    exact ⟨hσ.shared.of_readers_eq rfl (Nat.le_refl _), hσ.published.of_claimed_eq rfl⟩

/-- Whatever a user does, the bus is that of what the user holds. -/
theorem sound_after [Clock] (moves : List Move) : (after moves).Sound :=
  after_induction sound_empty (fun _ move hσ => hσ.step move) moves

end Session

end TopicHealth
