import TopicHealth.Proofs.Duration
import TopicHealth.Proofs.Node.Config

/-!
# Accepted configurations

What a configuration of a tracker and one of a node have to satisfy, and which service is named where one is repeated.
The order of services makes no difference to the answer, and that of feeds none to what is accepted.

* `validate_eq_repeatedFeed_iff`: which service is named where feeds are repeated.
* `validate_feeds_iff`: feeds in another order.
* `validate_iff_acceptable`: all of this of any configurations.
-/

namespace TopicHealth.Node.Config

/-! ## Repeated feeds -/

/-- What is wrong with feeds is wrong with one of them. -/
theorem exists_of_feedsFault? {index : Nat} {feeds : List Feed} {fault : ConfigFault}
    (h : feedsFault? index feeds = some fault) : ∃ f ∈ feeds, ∃ i, feedFault? i f = some fault := by
  induction feeds generalizing index with
  | nil => cases h
  | cons f feeds ih =>
    rw [feedsFault?, Option.orElse_eq_some] at h
    rcases h with hfault | ⟨-, hrest⟩
    · exact ⟨f, List.mem_cons_self, index, hfault⟩
    · obtain ⟨g, hg, i, hfault⟩ := ih hrest
      exact ⟨g, List.mem_cons_of_mem f hg, i, hfault⟩

/-- What is wrong with a feed by itself is its rate scale or its period. -/
theorem feedsFault?_cases {index : Nat} {feeds : List Feed} {fault : ConfigFault}
    (h : feedsFault? index feeds = some fault) : (∃ i, fault = .badRateScale i) ∨ ∃ s, fault = .noPeriod s := by
  obtain ⟨f, -, i, hfault⟩ := exists_of_feedsFault? h
  rw [feedFault?] at hfault
  split_ifs at hfault <;> cases hfault
  · exact .inl ⟨i, rfl⟩
  · exact .inr ⟨f.service, rfl⟩

/-- Feeds are blamed for being repeated where nothing else is wrong, and the least of their services that are repeated
is named. -/
theorem validate_eq_repeatedFeed_iff (c : Config) {s : Service} : c.validate = .error (.repeatedFeed s) ↔
    c.tracker.validate = .ok () ∧ c.tick.isZero = false ∧ c.reportInterval.isZero = false
      ∧ (∀ f ∈ c.feeds, Runs f) ∧ IsLeast (Service.repeats (c.feeds.map Feed.service)) s := by
  rw [← Service.repeated?_eq_some_iff, ← @feedsFault?_eq_none_iff 0, validate]
  cases c.tracker.validate with
  | error fault => simp
  | ok =>
    dsimp only
    split_ifs with htick hinterval
    · simp [htick]
    · simp [hinterval]
    · cases hfault : feedsFault? 0 c.feeds with
      | none => cases Service.repeated? (c.feeds.map Feed.service) <;> simp_all
      | some fault => rcases feedsFault?_cases hfault with ⟨i, rfl⟩ | ⟨t, rfl⟩ <;> simp

/-- What is wrong with a tracker comes before everything else. -/
theorem validate_eq_tracker_iff (c : Config) {fault : Tracker.ConfigFault} :
    c.validate = .error (.tracker fault) ↔ c.tracker.validate = .error fault := by
  rw [validate]
  cases c.tracker.validate with
  | error fault => simp
  | ok =>
    dsimp only
    split_ifs with htick hinterval
    · simp
    · simp
    · cases hfault : feedsFault? 0 c.feeds with
      | none => cases Service.repeated? (c.feeds.map Feed.service) <;> simp
      | some fault => rcases feedsFault?_cases hfault with ⟨i, rfl⟩ | ⟨t, rfl⟩ <;> simp

/-! ## Other orders -/

/-- The order of the tracked services makes no difference, not even to what is wrong. -/
theorem validate_services (c : Config) {services : List Service} (h : services.Perm c.tracker.services) :
    ({ c with tracker := { c.tracker with services } } : Config).validate = c.validate := by
  rw [validate, validate, c.tracker.validate_congr h]

/-- The order of the feeds makes no difference to whether a configuration is accepted. -/
theorem validate_feeds_iff (c : Config) {feeds : List Feed} (h : feeds.Perm c.feeds) :
    ({ c with feeds } : Config).validate = .ok () ↔ c.validate = .ok () := by
  have hruns : (∀ f ∈ feeds, Runs f) ↔ ∀ f ∈ c.feeds, Runs f :=
    forall_congr' fun f => imp_congr_left h.mem_iff
  rw [validate_eq_ok_iff, validate_eq_ok_iff, hruns, (h.map Feed.service).nodup_iff]

/-! ## Acceptance -/

/-- A tracker is accepted if it has services and an address, and no service occurs twice. A node is accepted if its
tracker is, the tick and the report interval are not empty, every feed has a positive rate scale that is finite, and a
period, and no two feeds are of one service. Where services are blamed for being repeated, of a tracker, of a node's
tracker or of its feeds, the one that is named is the least of those that occur more than once. Services in another
order meet with the same answer, by themselves or as those of a node, and feeds in another order are accepted where
those were. -/
theorem validate_iff_acceptable (t : Tracker.Config) (c : Config) :
    (t.validate = .ok () ↔ t.services ≠ [] ∧ t.addr ≠ "" ∧ t.services.Nodup)
      ∧ (c.validate = .ok () ↔ c.tracker.validate = .ok () ∧ c.tick ≠ .zero ∧ c.reportInterval ≠ .zero
        ∧ (∀ f ∈ c.feeds, Runs f) ∧ (c.feeds.map Feed.service).Nodup)
      ∧ (∀ s, t.validate = .error (.repeatedService s) → IsLeast {r | 1 < t.services.count r} s)
      ∧ (∀ s, c.validate = .error (.tracker (.repeatedService s)) → IsLeast {r | 1 < c.tracker.services.count r} s)
      ∧ (∀ s, c.validate = .error (.repeatedFeed s) → IsLeast {r | 1 < (c.feeds.map Feed.service).count r} s)
      ∧ (∀ services, services.Perm t.services → ({ t with services } : Tracker.Config).validate = t.validate)
      ∧ (∀ services, services.Perm c.tracker.services →
        ({ c with tracker := { c.tracker with services } } : Config).validate = c.validate)
      ∧ ∀ feeds, feeds.Perm c.feeds → (({ c with feeds } : Config).validate = .ok () ↔ c.validate = .ok ()) := by
  have hzero : ∀ d : Duration, d.isZero = false ↔ d ≠ .zero := by
    intro d
    rw [← Bool.not_eq_true, ne_eq, Duration.isZero_iff]
  refine ⟨t.validate_eq_ok_iff, ?_, ?_, ?_, ?_, ?_, ?_, ?_⟩
  · rw [c.validate_eq_ok_iff, hzero, hzero]
  · intro s h
    exact (t.validate_eq_repeatedService_iff.mp h).2.2
  · intro s h
    exact (c.tracker.validate_eq_repeatedService_iff.mp (c.validate_eq_tracker_iff.mp h)).2.2
  · intro s h
    exact (c.validate_eq_repeatedFeed_iff.mp h).2.2.2.2
  · intro services h
    exact t.validate_congr h
  · intro services h
    exact c.validate_services h
  · intro feeds h
    exact c.validate_feeds_iff h

/-- A tracker of which two services are repeated. -/
def crowdedTracker : Tracker.Config := { services := [.sendcan, .userFlag, .carState, .userFlag, .sendcan] }

/-- A node with the feeds of two services, one of which has no rate. -/
def pairedConfig : Config where
  tracker := { services := [.carState] }
  tick := .ofMillis 7
  updateTimeout := .zero
  reportInterval := .ofMillis 70
  feeds := [{ service := .userFlag, explicitPeriod := some (.ofMillis 700) }, { service := .carState }]

/-- In another order the same service is named, though another one is repeated first, and the feeds are accepted. -/
theorem verdicts_of_crowdedTracker :
    [Service.userFlag, .userFlag, .sendcan, .sendcan, .carState].Perm crowdedTracker.services
      ∧ ({ crowdedTracker with services := [.userFlag, .userFlag, .sendcan, .sendcan, .carState] } :
        Tracker.Config).validate = .error (.repeatedService .sendcan)
      ∧ pairedConfig.feeds.reverse.Perm pairedConfig.feeds
      ∧ ({ pairedConfig with feeds := pairedConfig.feeds.reverse } : Config).validate = .ok () := by
  have hperm : [Service.userFlag, .userFlag, .sendcan, .sendcan, .carState].Perm crowdedTracker.services := by decide
  have hfeeds : pairedConfig.feeds.reverse.Perm pairedConfig.feeds := List.reverse_perm _
  -- The services are finitely many, so that the least repeated one is found by cases.
  have hleast : IsLeast (Service.repeats crowdedTracker.services) .sendcan := by
    constructor
    · rw [Service.mem_repeats]
      decide
    · intro s hs
      rw [Service.mem_repeats] at hs
      cases s <;> revert hs <;> decide
  have hrepeated : crowdedTracker.validate = .error (.repeatedService .sendcan) :=
    crowdedTracker.validate_eq_repeatedService_iff.mpr ⟨by decide, by decide, hleast⟩
  have hfaultless : feedsFault? 0 pairedConfig.feeds = none := by decide +kernel
  have hvalid : pairedConfig.validate = .ok () :=
    pairedConfig.validate_eq_ok_iff.mpr
      ⟨by decide +kernel, by decide, by decide, feedsFault?_eq_none_iff.mp hfaultless, by decide⟩
  obtain ⟨-, -, -, -, -, hservices, -, haccepted⟩ := validate_iff_acceptable crowdedTracker pairedConfig
  exact ⟨hperm, (hservices _ hperm).trans hrepeated, hfeeds, (haccepted _ hfeeds).mpr hvalid⟩

end TopicHealth.Node.Config
