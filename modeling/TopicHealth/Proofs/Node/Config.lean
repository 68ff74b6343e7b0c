import TopicHealth.Node.Config
import TopicHealth.Proofs.Binary
import TopicHealth.Proofs.Duration
import TopicHealth.Proofs.Tracker.Config

/-!
# Valid configurations of nodes

A configuration of a node is valid exactly when that of its tracker is, the tick and the report interval are not empty,
and the feeds are of different services, each with a positive rate scale and a period.
-/

namespace TopicHealth.Node.Config

/-- A feed has a period: it is given one that is not empty, or it is given none and its service has a rate, of whose
multiple the reciprocal is below 2^64 seconds. -/
def HasPeriod (f : Feed) : Prop :=
  (∃ given, f.explicitPeriod = some given ∧ given ≠ .zero)
    ∨ f.explicitPeriod = none ∧ f.service.hasRate = true
      ∧ (.one / (f.service.rate * f.rateScale) : Binary64).Below (2 ^ 64)

theorem exists_period_iff {f : Feed} : (∃ period, f.period? = some period) ↔ HasPeriod f := by
  rw [Feed.period?, HasPeriod]
  cases f.explicitPeriod with
  | some given =>
    simp only [ne_eq, ← Duration.isZero_iff]
    split_ifs with hzero
    · simp [hzero]
    · simp [hzero]
  | none =>
    simp only [Feed.scaledPeriod?, ← Binary64.exists_span_iff]
    by_cases hrate : f.service.hasRate = true
    · simp [hrate]
    · simp [hrate]

/-- A feed has a positive rate scale that is finite, and a period. -/
structure Runs (f : Feed) : Prop where
  isFinite : f.rateScale.isFinite = true
  isPositive : f.rateScale.isPositive = true
  hasPeriod : HasPeriod f

theorem feedFault?_eq_none_iff {index : Nat} {f : Feed} : feedFault? index f = none ↔ Runs f := by
  constructor
  · intro h
    rw [feedFault?] at h
    split_ifs at h with hscale hperiod
    rw [Bool.not_eq_true', Bool.not_eq_false, Bool.and_eq_true] at hscale
    rw [Option.isNone_iff_eq_none] at hperiod
    exact ⟨hscale.1, hscale.2, exists_period_iff.mp (Option.ne_none_iff_exists'.mp hperiod)⟩
  · rintro ⟨hfinite, hpositive, hperiod⟩
    obtain ⟨period, hperiod⟩ := exists_period_iff.mpr hperiod
    rw [feedFault?, hfinite, hpositive, hperiod]
    rfl

/-- The first fault of some feeds is none where no feed has one, wherever it stands. -/
theorem feedsFault?_eq_none_iff {index : Nat} {feeds : List Feed} :
    feedsFault? index feeds = none ↔ ∀ f ∈ feeds, Runs f := by
  induction feeds generalizing index with
  | nil => simp [feedsFault?]
  | cons f feeds ih =>
    rw [feedsFault?, Option.orElse_eq_none, feedFault?_eq_none_iff, ih, List.forall_mem_cons]

theorem validate_eq_ok_iff (c : Config) : c.validate = .ok () ↔
    c.tracker.validate = .ok () ∧ c.tick.isZero = false ∧ c.reportInterval.isZero = false
      ∧ (∀ f ∈ c.feeds, Runs f) ∧ (c.feeds.map Feed.service).Nodup := by
  rw [← Service.repeated?_eq_none_iff, ← @feedsFault?_eq_none_iff 0, validate]
  cases c.tracker.validate with
  | error fault => simp
  | ok =>
    dsimp only
    split_ifs with htick hinterval
    · simp [htick]
    · simp [hinterval]
    · split <;> simp_all

end TopicHealth.Node.Config
