import TopicHealth.Proofs.Bus.Holders
import TopicHealth.Proofs.Prelude
import TopicHealth.PublisherSet

/-!
# Opening publishers together

The publishers of a set are made one after another. While that goes well the flags of those that were made are set
beside the older ones; where it does not, they are cleared again, and the bus is what it was.

* `Opening`: what the bus has to do with the publishers that were made so far.
* `ends_openAll`: how opening ends.
* `bus_of_open_error`, `open_eq_error_iff`: what a set leaves that could not be opened, and when it could not.
* `opening_of_open`, `exists_publisher_of_open`: a set that was opened.
-/

namespace TopicHealth

/-- Dropping publishers clears the flags of their endpoints. -/
theorem Bus.closeAll_eq (b : Bus) (gone : List Publisher) :
    gone.foldl Bus.closePublisher b =
      { b with claimed := fun e => if e ∈ gone.map Publisher.endpoint then false else b.claimed e } := by
  induction gone generalizing b with
  | nil => rfl
  | cons p gone ih =>
    rw [List.foldl_cons, ih]
    simp only [closePublisher, putClaim, List.map_cons, List.mem_cons]
    congr 1
    funext e
    by_cases he : e = p.endpoint <;> simp [he]

namespace PublisherSet

variable {b b₀ b' : Bus} {opened : List (Service × Publisher)} {services : List Service} {notices : List Notice}

/-- On the way from an earlier bus publishers were made for some services, in order, of which none was published. -/
structure Opening (b₀ : Bus) (opened : List (Service × Publisher)) (b : Bus) : Prop where
  readers : b.readers = b₀.readers
  gates : b.gates = b₀.gates
  signals : b.signals = b₀.signals
  serial : b.serial = b₀.serial
  claimed : ∀ e, b.claimed e = true ↔ b₀.claimed e = true ∨ ∃ q ∈ opened, q.1.name = e
  endpoint : ∀ q ∈ opened, q.2.endpoint = q.1.name
  free : ∀ q ∈ opened, b₀.claimed q.1.name = false
  published : ∀ publishers, b₀.Published publishers → b.Published (opened.map (·.2) ++ publishers)

namespace Opening

theorem nil (b : Bus) : Opening b [] b := by
  constructor
  case readers | gates | signals | serial => rfl
  case claimed =>
    intro e
    simp
  case endpoint | free =>
    intro q hq
    cases hq
  case published =>
    intro publishers h
    exact h

/-- The flag of a service that is not open yet is what it was before. -/
theorem claimed_eq (h : Opening b₀ opened b) {s : Service} (hs : s ∉ opened.map (·.1)) :
    b.claimed s.name = b₀.claimed s.name := by
  rw [Bool.eq_iff_iff, h.claimed]
  refine or_iff_left ?_
  rintro ⟨q, hq, heq⟩
  exact hs (Service.name_injective heq ▸ List.mem_map_of_mem hq)

/-- One more publisher. -/
theorem snoc (h : Opening b₀ opened b) {s : Service} (hfree : b₀.claimed s.name = false) {p : Publisher}
    (hopen : b.openPublisher s.name = ⟨b', notices, .ok p⟩) : Opening b₀ (opened ++ [(s, p)]) b' := by
  have hpublished : ∀ publishers, b₀.Published publishers →
      b'.Published ((opened ++ [(s, p)]).map (·.2) ++ publishers) := by
    intro publishers hb₀
    -- The new publisher is counted first, and stands last in the set.
    refine ((h.published publishers hb₀).opened hopen).congr_perm ?_
    rw [List.map_append, List.map_singleton, List.append_assoc, List.singleton_append]
    exact List.perm_middle.symm
  obtain ⟨-, rfl, rfl⟩ := Bus.of_openPublisher_ok hopen
  have hforall : ∀ P : Service × Publisher → Prop, (∀ q ∈ opened, P q) → P (s, ⟨s.name⟩) →
      ∀ q ∈ opened ++ [(s, ⟨s.name⟩)], P q := by
    intro P hopened hnew q hq
    rcases List.mem_append.mp hq with hq | hq
    · exact hopened q hq
    · rw [List.mem_singleton.mp hq]
      exact hnew
  constructor
  case readers => exact h.readers
  case gates => exact h.gates
  case signals => exact h.signals
  case serial => exact h.serial
  case claimed =>
    intro e
    simp only [Bus.claimed_putClaim, List.mem_append, List.mem_singleton, or_and_right, exists_or, exists_eq_left,
      ← or_assoc, ← h.claimed e]
    by_cases he : e = s.name
    · simp [he]
    · simp [he, Ne.symm he]
  case endpoint => exact hforall _ h.endpoint rfl
  case free => exact hforall _ h.free hfree
  case published => exact hpublished

/-- Dropping what was opened leaves what there was before: no flag is cleared that was set by somebody else. -/
theorem close (h : Opening b₀ opened b) : (opened.map (·.2)).foldl Bus.closePublisher b = b₀ := by
  have hclaimed : (fun e => if e ∈ (opened.map (·.2)).map Publisher.endpoint then false else b.claimed e) =
      b₀.claimed := by
    funext e
    have hmem : e ∈ (opened.map (·.2)).map Publisher.endpoint ↔ ∃ q ∈ opened, q.1.name = e := by
      rw [List.map_map, List.mem_map]
      exact exists_congr fun q => and_congr_right fun hq => by rw [Function.comp_apply, h.endpoint q hq]
    split_ifs with he
    -- An endpoint that was opened here was free before, so a cleared flag is the old one.
    · obtain ⟨q, hq, rfl⟩ := hmem.mp he
      exact (h.free q hq).symm
    · rw [Bool.eq_iff_iff, h.claimed]
      exact or_iff_left (mt hmem.mpr he)
  rw [Bus.closeAll_eq, hclaimed, h.readers, h.gates, h.signals, h.serial]

end Opening

/-! ## All of them -/

/-- How opening ends on the way from an earlier bus: every service has a publisher now, or the flag of one was set
before and what was opened is dropped. -/
inductive Ends (b₀ : Bus) (services : List Service) : Bus → Except OpenFault PublisherSet → Prop
  | opened {b : Bus} {ps : PublisherSet} (h : Opening b₀ ps.publishers b)
    (hfree : ∀ s ∈ services, b₀.claimed s.name = false) : Ends b₀ services b (.ok ps)
  | refused {b : Bus} {opened : List (Service × Publisher)} {s : Service} (h : Opening b₀ opened b)
    (hs : s ∈ services) (htaken : b₀.claimed s.name = true) :
    Ends b₀ services ((opened.map (·.2)).foldl Bus.closePublisher b) (.error ⟨s, .alreadyPublished s.name⟩)

/-- A service more, which is no obstacle. -/
theorem Ends.cons {s : Service} {result : Except OpenFault PublisherSet} (h : Ends b₀ services b result)
    (hfree : b₀.claimed s.name = false) : Ends b₀ (s :: services) b result := by
  cases h with
  | opened h hrest => exact .opened h (List.forall_mem_cons.mpr ⟨hfree, hrest⟩)
  | refused h hs htaken => exact .refused h (List.mem_cons_of_mem _ hs) htaken

/-- By the services one after another, opening goes on or ends with all that it has claimed given back. -/
theorem ends_openAll (h : Opening b₀ opened b) (services : List Service) :
    Ends b₀ services (openAll services opened b).bus (openAll services opened b).result := by
  induction services generalizing opened b with
  | nil => exact .opened h fun s hs => by cases hs
  | cons s services ih =>
    rw [openAll]
    cases hlookup : opened.lookup s with
    | some p =>
      -- The service has been opened, so it was free before.
      obtain ⟨q, hq, rfl⟩ := List.mem_map.mp (key_mem_of_lookup hlookup)
      exact (ih h).cons (h.free q hq)
    | none =>
      have hs : s ∉ opened.map (·.1) := by
        intro hmem
        obtain ⟨p, hp⟩ := exists_lookup_of_mem hmem
        rw [hlookup] at hp
        cases hp
      -- What is open here is not the service itself, so that its flag is as old as the beginning.
      cases hclaimed : b.claimed s.name with
      | true =>
        rw [Bus.openPublisher_of_claimed hclaimed]
        rw [h.claimed_eq hs] at hclaimed
        have hrefused : Ends b₀ (s :: services) _ _ := .refused h List.mem_cons_self hclaimed
        rw [List.foldl_map] at hrefused
        exact hrefused
      | false =>
        have hmade := Bus.openPublisher_of_free hclaimed
        rw [hmade]
        rw [h.claimed_eq hs] at hclaimed
        exact (ih (h.snoc hclaimed hmade)).cons hclaimed

theorem ends_open (b : Bus) (services : List Service) :
    Ends b services (PublisherSet.open b services).bus (PublisherSet.open b services).result :=
  ends_openAll (.nil b) services

/-- A set that could not be opened leaves nothing. -/
theorem bus_of_open_error {fault : OpenFault} (hopen : PublisherSet.open b services = ⟨b', notices, .error fault⟩) :
    b' = b := by
  have hends := ends_open b services
  rw [hopen] at hends
  cases hends with
  | refused h hs htaken => exact h.close

/-- A set that opens has claimed the endpoint of every service on the way. -/
theorem opening_of_open {ps : PublisherSet} (hopen : PublisherSet.open b services = ⟨b', notices, .ok ps⟩) :
    Opening b ps.publishers b' := by
  have hends := ends_open b services
  rw [hopen] at hends
  cases hends with
  | opened h hfree => exact h

/-- Every service that a set was asked for, and every one that was open already, has a publisher in it. -/
theorem mem_services_of_openAll {ps : PublisherSet} (h : (openAll services opened b).result = .ok ps) :
    ∀ s, s ∈ opened.map (·.1) ∨ s ∈ services → s ∈ ps.services := by
  induction services generalizing opened b with
  | nil =>
    cases h
    intro s hs
    exact hs.resolve_right (List.not_mem_nil)
  | cons r services ih =>
    rw [openAll] at h
    -- A service that is listed twice is opened once, and is among those open when it comes again.
    cases hlookup : opened.lookup r with
    | some p =>
      rw [hlookup] at h
      intro s hs
      apply ih h s
      rcases hs with hs | hs
      · exact .inl hs
      · rcases List.mem_cons.mp hs with rfl | hs
        · exact .inl (key_mem_of_lookup hlookup)
        · exact .inr hs
    | none =>
      rw [hlookup] at h
      cases hclaimed : b.claimed r.name with
      | true =>
        rw [Bus.openPublisher_of_claimed hclaimed] at h
        cases h
      | false =>
        rw [Bus.openPublisher_of_free hclaimed] at h
        intro s hs
        apply ih h s
        rw [List.map_append, List.mem_append, List.map_singleton, List.mem_singleton]
        rcases hs with hs | hs
        · exact .inl (.inl hs)
        · rcases List.mem_cons.mp hs with rfl | hs
          · exact .inl (.inr rfl)
          · exact .inr hs

/-- A set that opens has a publisher for each of its services. -/
theorem exists_publisher_of_open {ps : PublisherSet} {s : Service}
    (hopen : PublisherSet.open b services = ⟨b', notices, .ok ps⟩) (hs : s ∈ services) :
    ∃ p, ps.publishers.lookup s = some p := by
  have hresult : (PublisherSet.open b services).result = .ok ps := by
    rw [hopen]
  exact exists_lookup_of_mem (mem_services_of_openAll hresult s (.inr hs))

end PublisherSet

end TopicHealth
