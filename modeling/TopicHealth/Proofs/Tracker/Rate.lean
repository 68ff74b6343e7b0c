import Mathlib.Data.List.GetD
import TopicHealth.Proofs.Tracker.Config
import TopicHealth.Proofs.Tracker.Receipt

/-!
# Rates

When the times of a run do not go back, the intervals that the history of a service keeps add up to the span of its
last receipts. So no sum is over the range, and the verdict on the rate compares that span with a whole number of
threshold periods.

* `sum_intervals`: intervals between ordered time points add up to the span between the first and the last.
* `keepsRate_eq`: the verdict in terms of the receipts.
* `exists_run`: a run goes through.
* `freqOk_iff_span_lt`: the verdict after every run, and that it looks no further back than the last time points.
-/

namespace TopicHealth

namespace Service

/-- The threshold of a service that has a rate is the period of nine tenths of it, to the nearest nanosecond. -/
theorem exists_maxMean {s : Service} (h : s.hasRate = true) :
    ∃ maxMean, s.maxMean? = some maxMean ∧ maxMean.toNanos = Binary.roundHalfEven (10 ^ 12) (9 * s.centihertz) := by
  have hthreshold : s.maxMean?.map Duration.toNanos =
      if s.hasRate then some (Binary.roundHalfEven (10 ^ 12) (9 * s.centihertz)) else none := by
    cases s <;> decide +kernel
  rw [h, if_pos rfl, Option.map_eq_some_iff] at hthreshold
  exact hthreshold

end Service

namespace Tracker

variable {c : Config} {p : Policy} {s : Service} {ticks : List Tick} {t : Tracker} {frame : Int}
  {received : List Receipt} {st : Status}

/-! ## Intervals and spans -/

/-- Intervals between ordered time points add up to the span between the first and the last. -/
theorem sum_intervals (points : List Duration) (hne : points ≠ []) (h : points.Pairwise (· ≤ ·)) :
    ((intervals points).map Duration.toNanos).sum + (points.head hne).toNanos = (points.getLast hne).toNanos := by
  induction points with
  | nil => exact absurd rfl hne
  | cons first points ih =>
    cases points with
    | nil => exact Nat.zero_add _
    | cons second points =>
      -- The first interval closes the gap to the second point, from which the others go on.
      obtain ⟨hfirst, hrest⟩ := List.pairwise_cons.mp h
      have hle : first.toNanos ≤ second.toNanos := hfirst second List.mem_cons_self
      have hsum := ih (List.cons_ne_nil second points) hrest
      rw [List.head_cons] at hsum ⊢
      rw [intervals_cons_cons, List.map_cons, List.sum_cons, Duration.toNanos_sub,
        List.getLast_cons (List.cons_ne_nil second points)]
      omega

theorem intervals_drop (points : List Duration) (n : Nat) :
    intervals (points.drop n) = (intervals points).drop n := by
  rw [intervals, intervals, List.drop_zipWith, List.tail_drop, List.drop_tail]

theorem length_intervals (points : List Duration) : (intervals points).length = points.length - 1 := by
  simp [intervals]

/-- The time of the receipt of a number, counted from one. The clock's origin comes before the first. -/
def timeAt (received : List Receipt) (j : Nat) : Duration := (timePoints received).getD j .zero

/-- How many intervals of some receipts the history has room for. -/
def kept (received : List Receipt) : Nat := min received.length historyCapacity

/-- The span of the last receipts, as many intervals as the history has room for, in nanoseconds. -/
def lastSpan (received : List Receipt) : Nat :=
  (timeAt received received.length).toNanos - (timeAt received (received.length - kept received)).toNanos

theorem length_timePoints (received : List Receipt) : (timePoints received).length = received.length + 1 := by
  simp [timePoints]

theorem timeAt_eq_getElem (received : List Receipt) (j : Nat) (h : j < (timePoints received).length) :
    timeAt received j = (timePoints received)[j] := List.getD_eq_getElem _ _ h

theorem timeAt_length (received : List Receipt) :
    timeAt received received.length = received.getLast?.elim .zero Receipt.time := by
  have hlast : received.length < (timePoints received).length := by
    rw [length_timePoints]
    omega
  rw [← getLast_timePoints, timeAt_eq_getElem received _ hlast, List.getLast_eq_getElem]
  simp only [length_timePoints, Nat.add_sub_cancel]

section Recorded

variable (h : Recorded p s frame received st)

include h

/-- The history holds the intervals of the last receipts. -/
theorem Recorded.history_eq :
    st.history.toList = intervals ((timePoints received).drop (received.length - kept received)) := by
  have hstart : received.length - historyCapacity = received.length - kept received := by
    rw [kept]
    omega
  rw [h.history, List.rtake, intervals_drop, length_intervals, length_timePoints, Nat.add_sub_cancel, hstart]

theorem Recorded.len_eq : st.history.len = kept received := by
  rw [← Ring.length_toList, h.history_eq, length_intervals, List.length_drop, length_timePoints, kept]
  omega

/-- Where the time points are ordered the history adds up to the span of the last receipts. -/
theorem Recorded.total_eq (hordered : (timePoints received).Pairwise (· ≤ ·)) :
    st.history.total = lastSpan received := by
  have hstart : received.length - kept received < (timePoints received).length := by
    rw [length_timePoints]
    omega
  have hne : (timePoints received).drop (received.length - kept received) ≠ [] :=
    List.ne_nil_of_length_pos (by rw [List.length_drop]; omega)
  have hsum := sum_intervals _ hne hordered.drop
  rw [← h.history_eq, List.head_drop, List.getLast_drop, ← timeAt_eq_getElem received _ hstart, getLast_timePoints,
    ← timeAt_length] at hsum
  rw [lastSpan, Ring.total]
  omega

end Recorded

/-! ## Verdicts -/

/-- Whether a policy holds a service to its rate once the service has been heard from. -/
def Policy.holdsToRate (p : Policy) (s : Service) : Bool :=
  s.hasRate && !p.nonPolled.contains s && !p.ignoreAvgFreq.contains s && !p.ignoreAlive.contains s

/-- The verdict on the rate of a service by its receipts: their last intervals, as many as are kept, are shorter
together than as many threshold periods. -/
def Policy.onTime (p : Policy) (s : Service) (received : List Receipt) : Bool :=
  if p.holdsToRate s && decide (Status.receiptThreshold < timeAt received received.length) then
    s.maxMean?.all fun maxMean => decide (lastSpan received < kept received * maxMean.toNanos)
  else true

theorem Recorded.rateCheckApplies_eq (h : Recorded p s frame received st) : p.rateCheckApplies s st =
    (p.holdsToRate s && decide (Status.receiptThreshold < timeAt received received.length)) := by
  rw [timeAt_length, ← h.recvTime, Policy.rateCheckApplies, Policy.holdsToRate, Status.hasReceived]
  cases decide (Status.receiptThreshold < st.recvTime) <;> simp

/-- A service that was heard from has intervals. -/
theorem kept_pos (h : Status.receiptThreshold < timeAt received received.length) : 0 < kept received := by
  rcases List.eq_nil_or_concat received with rfl | ⟨before, r, rfl⟩
  · exact absurd h (by decide)
  · have hcapacity : 0 < historyCapacity := by decide
    rw [kept, List.concat_eq_append, List.length_append, List.length_singleton]
    omega

/-- Where the time points are ordered the mean can be formed, and the verdict is the one by the receipts. -/
theorem Recorded.keepsRate_eq (h : Recorded p s frame received st)
    (hordered : (timePoints received).Pairwise (· ≤ ·)) : p.keepsRate s st = .ok (p.onTime s received) := by
  rw [Policy.keepsRate, Policy.onTime, h.rateCheckApplies_eq]
  cases s.maxMean? with
  | none => simp
  | some maxMean =>
    dsimp only
    by_cases happlies :
        (p.holdsToRate s && decide (Status.receiptThreshold < timeAt received received.length)) = true
    case neg => rw [if_neg happlies, if_neg happlies]
    case pos =>
      rw [if_pos happlies, if_pos happlies]
      have hheard := of_decide_eq_true (Bool.and_eq_true_iff.mp happlies).2
      have hpos := kept_pos hheard
      have hlen := h.len_eq
      have hcount : st.history.len < 2 ^ 32 := by
        have hle : st.history.len ≤ 100 := st.history.len_le
        omega
      have htotal := h.total_eq hordered
      have hrange : st.history.total < Duration.limit := by
        have hlast := (timeAt received received.length).toNanos_lt
        rw [htotal, lastSpan]
        omega
      obtain ⟨mean, hmean, hvalue⟩ := st.history.mean_of_total_lt (by omega) hcount hrange
      -- Rounding the mean down does not change on which side of a whole number of nanoseconds it is.
      have hverdict : mean < maxMean ↔ lastSpan received < kept received * maxMean.toNanos := by
        rw [Duration.lt_def, hvalue, htotal, hlen, Nat.div_lt_iff_lt_mul hpos, Nat.mul_comm]
      have hbelow : decide (mean < maxMean) = decide (lastSpan received < kept received * maxMean.toNanos) :=
        decide_eq_decide.mpr hverdict
      rw [hmean, map_ok, Option.any_some, Option.all_some, hbelow]

/-! ## Runs -/

/-- The times of ticks do not go back. -/
def Ordered (ticks : List Tick) : Prop := (ticks.map Tick.now).Pairwise (· ≤ ·)

theorem Ordered.timePoints (h : Ordered ticks) (s : Service) :
    (timePoints (receipts s ticks)).Pairwise (· ≤ ·) := by
  have hnumbered : ticks.zipIdx.Pairwise fun a b => a.1.now ≤ b.1.now := by
    rw [Ordered, List.pairwise_map, ← List.zipIdx_map_fst 0 ticks, List.pairwise_map] at h
    exact h
  rw [Tracker.timePoints, List.pairwise_cons, List.pairwise_map, receipts, List.pairwise_flatMap]
  refine ⟨fun d _ => Nat.zero_le _, fun a _ => ?_, hnumbered.imp fun hle x hx y hy => ?_⟩
  · rw [List.pairwise_map]
    exact List.pairwise_of_forall fun _ _ => Nat.le_refl _
  · obtain ⟨_, -, rfl⟩ := List.mem_map.mp hx
    obtain ⟨_, -, rfl⟩ := List.mem_map.mp hy
    exact hle

/-- A run whose times do not go back goes through. -/
theorem exists_run (hnodup : c.services.Nodup) (h : Ordered ticks) : ∃ t, (ofConfig c).run ticks = .ok t := by
  -- The last tick judges by the receipts up to its own batch, and these are in order as well.
  induction ticks using List.reverseRecOn with
  | nil => exact ⟨_, rfl⟩
  | append_singleton ticks tick ih =>
    have hbefore : Ordered ticks := by
      rw [Ordered, List.map_append, List.pairwise_append] at h
      exact h.1
    obtain ⟨before, hrun⟩ := ih hbefore
    have hran := ran_of_run hrun
    have hgoes : ∃ t', (before.tick tick.now tick.batch).2 = .ok t' := by
      apply exists_tick
      · rw [hran.services]
        exact hnodup
      · intro s st hst
        have hs : s ∈ c.services := by
          rw [← hran.services]
          exact key_mem_of_lookup hst
        obtain ⟨st', hst', hrecorded⟩ := recorded_of_run hrun hs
        cases hst.symm.trans hst'
        have hkeeps := (hrecorded.takeIn tick).keepsRate_eq (h.timePoints s)
        rw [hran.policy, hran.next, Policy.advance, Policy.judge, hkeeps]
        exact ⟨_, rfl⟩
    obtain ⟨t, htick⟩ := hgoes
    exact ⟨t, run_concat_eq_ok_iff.mpr ⟨before, hrun, htick⟩⟩

/-- After a tick the flag of a service for its rate is the verdict by its receipts. -/
theorem freqOk_of_run (h : Ordered ticks) (hne : ticks ≠ []) (hrun : (ofConfig c).run ticks = .ok t)
    (hs : s ∈ c.services) : ∃ st, t.status? s = some st ∧ st.freqOk = c.policy.onTime s (receipts s ticks) := by
  obtain ⟨st, hst, hrecorded⟩ := recorded_of_run hrun hs
  obtain ⟨st', hst', hjudged⟩ := judged_of_run hrun hs
  cases hst.symm.trans hst'
  have hkeeps := (hjudged _ (List.getLast?_eq_some_getLast hne)).freqOk
  rw [hrecorded.keepsRate_eq (h.timePoints s)] at hkeeps
  exact ⟨st, hst, (Except.ok.inj hkeeps).symm⟩

/-- The verdict of a full history looks at the last time points only. -/
theorem onTime_eq_of_timeAt_eq {received received' : List Receipt} (hfull : historyCapacity ≤ received.length)
    (hfull' : historyCapacity ≤ received'.length)
    (hlast : ∀ j ≤ historyCapacity, timeAt received (received.length - j) = timeAt received' (received'.length - j)) :
    p.onTime s received = p.onTime s received' := by
  have hkept : kept received = historyCapacity := by
    rw [kept]
    omega
  have hkept' : kept received' = historyCapacity := by
    rw [kept]
    omega
  have hend := hlast 0 (Nat.zero_le _)
  have hstart := hlast historyCapacity (Nat.le_refl _)
  rw [Nat.sub_zero, Nat.sub_zero] at hend
  simp only [Policy.onTime, lastSpan, hkept, hkept', hend, hstart]

/-- When the times do not go back, every run goes through, and its verdict on the rate of a service that is held to
one compares two numbers: the span of the last intervals, at most a hundred, and as many threshold periods. From the
hundredth receipt on the verdict is the same after any other run with the same last time points. -/
theorem freqOk_iff_span_lt (c : Config) (ticks : List Tick) (hvalid : c.validate = .ok ()) (hordered : Ordered ticks) :
    ∃ t, (ofConfig c).run ticks = .ok t
      ∧ ∀ s ∈ c.services, s.hasRate = true → t.isPolled s = true →
        s ∉ c.policy.ignoreAlive → s ∉ c.policy.ignoreAvgFreq →
        let received := receipts s ticks
        let k := received.length
        let n := min k historyCapacity
        Status.receiptThreshold < timeAt received k →
        ∃ st maxMean, t.status? s = some st ∧ s.maxMean? = some maxMean
          ∧ maxMean.toNanos = Binary.roundHalfEven (10 ^ 12) (9 * s.centihertz)
          ∧ (st.freqOk = true ↔ (timeAt received k - timeAt received (k - n)).toNanos < n * maxMean.toNanos)
          ∧ (historyCapacity ≤ k → ∀ ticks' t', Ordered ticks' → (ofConfig c).run ticks' = .ok t' →
            let received' := receipts s ticks'
            historyCapacity ≤ received'.length →
            (∀ j ≤ historyCapacity, timeAt received (k - j) = timeAt received' (received'.length - j)) →
            ∃ st', t'.status? s = some st' ∧ st'.freqOk = st.freqOk) := by
  have hnodup := ((Config.validate_eq_ok_iff c).mp hvalid).2.2
  obtain ⟨t, hrun⟩ := exists_run hnodup hordered
  refine ⟨t, hrun, ?_⟩
  intro s hs hrate hpolled halive havg received k n hheard
  -- Only a run with ticks has receipts.
  have hne : ∀ ticks, 0 < (receipts s ticks).length → ticks ≠ [] := by
    rintro _ hpos rfl
    exact Nat.lt_irrefl 0 hpos
  have hpos : 0 < k := by
    have := kept_pos hheard
    rw [kept] at this
    omega
  obtain ⟨st, hst, hfreqOk⟩ := freqOk_of_run hordered (hne ticks hpos) hrun hs
  obtain ⟨maxMean, hmaxMean, hvalue⟩ := Service.exists_maxMean hrate
  have hholds : c.policy.holdsToRate s = true := by
    rw [Tracker.isPolled, (ran_of_run hrun).policy] at hpolled
    simp_all [Policy.holdsToRate]
  have hverdict : c.policy.onTime s received = decide (lastSpan received < kept received * maxMean.toNanos) := by
    rw [Policy.onTime, hholds, decide_eq_true hheard, hmaxMean, Bool.and_self, if_pos rfl, Option.all_some]
  refine ⟨st, maxMean, hst, hmaxMean, hvalue, ?_, ?_⟩
  · rw [hfreqOk, hverdict, decide_eq_true_iff, Duration.toNanos_sub, lastSpan, kept]
  · intro hfull ticks' t' hordered' hrun' received' hfull' hlast
    have hpos' : 0 < received'.length := Nat.lt_of_lt_of_le (by decide) hfull'
    obtain ⟨st', hst', hfreqOk'⟩ := freqOk_of_run hordered' (hne ticks' hpos') hrun' hs
    refine ⟨st', hst', ?_⟩
    rw [hfreqOk, hfreqOk']
    exact (onTime_eq_of_timeAt_eq hfull hfull' hlast).symm

/-- One service that is waited for and held to its rate, and one that is neither. -/
def cameraConfig : Config := { services := [.modelV2, .userFlag], poll := some [.modelV2] }

/-- More messages in one tick than the history has room for, after some earlier ticks. -/
def burstAfter (earlier : List Tick) : List Tick :=
  earlier ++ [⟨.ofMillis 6000, List.replicate 101 (some ⟨0, true, .modelV2 {}⟩)⟩]

/-- After the burst the service keeps its rate, and so it does if a message came long before. -/
theorem freqOk_after_burst : ∃ t t' st st', (ofConfig cameraConfig).run (burstAfter []) = .ok t
    ∧ (ofConfig cameraConfig).run (burstAfter [⟨.ofMillis 1, [some ⟨0, true, .modelV2 {}⟩]⟩]) = .ok t'
    ∧ t.status? .modelV2 = some st ∧ st.freqOk = true ∧ t'.status? .modelV2 = some st' ∧ st'.freqOk = true := by
  have hvalid : cameraConfig.validate = .ok () := (Config.validate_eq_ok_iff cameraConfig).mpr (by decide)
  have hordered : Ordered (burstAfter []) := by
    unfold Ordered
    decide
  have hordered' : Ordered (burstAfter [⟨.ofMillis 1, [some ⟨0, true, .modelV2 {}⟩]⟩]) := by
    unfold Ordered
    decide
  obtain ⟨t, hrun, hverdict⟩ := freqOk_iff_span_lt cameraConfig (burstAfter []) hvalid hordered
  obtain ⟨t', hrun', -⟩ := freqOk_iff_span_lt cameraConfig _ hvalid hordered'
  have hpolled : t.isPolled .modelV2 = true := by
    obtain ⟨st, hst, -⟩ := recorded_of_run hrun (s := .modelV2) (by decide)
    rw [isPolled, contains, hst, Option.isSome_some, Bool.true_and, (ran_of_run hrun).policy]
    decide
  obtain ⟨st, maxMean, hst, hmaxMean, hvalue, hspan, hsame⟩ :=
    hverdict .modelV2 (by decide) (by decide) hpolled (by decide) (by decide) (by decide +kernel)
  have hfreqOk : st.freqOk = true := by
    rw [hspan, hvalue]
    decide +kernel
  obtain ⟨st', hst', hfreqOk'⟩ := hsame (by decide +kernel) _ t' hordered' hrun' (by decide +kernel) (by decide +kernel)
  exact ⟨t, t', st, st', hrun, hrun', hst, hfreqOk, hst', hfreqOk'.trans hfreqOk⟩

end Tracker

end TopicHealth
