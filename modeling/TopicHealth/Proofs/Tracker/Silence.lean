import TopicHealth.Proofs.Tracker.Rate

/-!
# Silent ticks

A tick without a message of a service forms the flags of the service anew from a record that is as it was. The verdict
on its rate looks at the record alone and so stays what it was at the tick before, and on a clock that does not go
back the service can only die of age.

* `rests_of_advance`, `alive_of_advance`: a tick without a message of the service, and one with some.
* `rests_of_run`, `alive_of_run`: the same of a tick at the end of a run.
* `exists_fall`, `exists_fall_of_rests`: a flag that never rises falls once at most.
* `alive_falls_once`: the flags of a service from one receipt to the next.
-/

namespace TopicHealth

/-- A window of age has room for a receipt of the same instant. -/
theorem Service.maxAge_pos {s : Service} {maxAge : Duration} (h : s.maxAge? = some maxAge) : .zero < maxAge := by
  have hpos : s.maxAge?.all fun maxAge => decide (.zero < maxAge) := by
    cases s <;> decide +kernel
  rw [h, Option.all_some] at hpos
  exact of_decide_eq_true hpos

namespace Tracker

variable {c : Config} {p : Policy} {s : Service} {ticks : List Tick} {tick : Tick} {t : Tracker} {frame : Int}
  {now now' : Duration} {batch : List (Option Event)} {st st' : Status}

/-! ## One tick -/

/-- What has become of a status when no message came: nothing but the flag of the tick, and maybe of a live service a
dead one. -/
structure Rests (before after : Status) : Prop where
  kept : after = { before with updated := false, alive := after.alive }
  alive : after.alive = true → before.alive = true

/-- Who is young enough at an instant was so before. -/
theorem aliveAt_of_le (hle : now ≤ now') (h : p.aliveAt s st now' = true) : p.aliveAt s st now = true := by
  rw [Policy.aliveAt] at h ⊢
  cases hage : s.maxAge? with
  | none => rfl
  | some maxAge =>
    rw [hage] at h
    dsimp only at h ⊢
    rw [Bool.or_eq_true, decide_eq_true_iff, Duration.lt_def, Duration.toNanos_sub] at h ⊢
    rw [Duration.le_def] at hle
    exact h.imp_right fun hyoung => by omega

/-- Where the last receipt is of the same instant a service is alive. -/
theorem aliveAt_recvTime (p : Policy) (s : Service) (st : Status) : p.aliveAt s st st.recvTime = true := by
  rw [Policy.aliveAt]
  cases hage : s.maxAge? with
  | none => rfl
  | some maxAge =>
    have hpos := Service.maxAge_pos hage
    dsimp only
    rw [Bool.or_eq_true, decide_eq_true_iff, Duration.lt_def, Duration.toNanos_sub, Nat.sub_self]
    exact .inr hpos

theorem recvTime_recordAll (events : List Event) (hne : events ≠ []) (st : Status) :
    (p.recordAll s now frame events st).recvTime = now := by
  -- The last message decides, whatever the ones before it were.
  cases events using List.reverseRecOn with
  | nil => exact absurd rfl hne
  | append_singleton events e =>
    rw [Policy.recordAll, List.foldl_concat, Policy.record_eq]
    rfl

/-- A tick without a message of a service leaves its record and its verdict on the rate as they were when the flags
were last judged. -/
theorem rests_of_advance (hjudged : Judged p s now st) (hle : now ≤ now') (hsilent : eventsOf s batch = [])
    (hadvance : p.advance s st now' frame batch = .ok st') : Rests st st' := by
  have hjudge : p.judge s { st with updated := false } now' = .ok st' := by
    rw [Policy.advance, hsilent] at hadvance
    exact hadvance
  -- Neither flag is judged by whether a message came in the tick.
  obtain ⟨freqOk, hkeeps, rfl⟩ := map_eq_ok hjudge
  have hfreqOk : freqOk = st.freqOk := Except.ok.inj (hkeeps.symm.trans hjudged.freqOk)
  rw [hfreqOk]
  constructor
  case kept => rfl
  case alive =>
    intro halive
    rw [hjudged.alive]
    exact aliveAt_of_le hle halive

/-- A tick with a message of a service finds it alive. -/
theorem alive_of_advance (hevents : eventsOf s batch ≠ []) (hadvance : p.advance s st now frame batch = .ok st') :
    st'.alive = true := by
  obtain ⟨freqOk, -, rfl⟩ := map_eq_ok hadvance
  have halive := aliveAt_recvTime p s (p.recordAll s now frame (eventsOf s batch) { st with updated := false })
  rw [recvTime_recordAll _ hevents] at halive
  exact halive

/-! ## One tick of a run -/

theorem Ordered.take (h : Ordered ticks) (n : Nat) : Ordered (ticks.take n) := by
  rw [Ordered, List.map_take]
  exact List.Pairwise.take h

/-- The last tick of a run, as one service sees it. -/
theorem exists_advance_of_run (hrun : (ofConfig c).run (ticks ++ [tick]) = .ok t) (hs : s ∈ c.services) :
    ∃ before st st', (ofConfig c).run ticks = .ok before ∧ before.status? s = some st ∧ t.status? s = some st'
      ∧ c.policy.advance s st tick.now ticks.length tick.batch = .ok st' := by
  obtain ⟨before, hbefore, htick⟩ := run_concat_eq_ok_iff.mp hrun
  obtain ⟨st, hst, -⟩ := recorded_of_run hbefore hs
  obtain ⟨st', hadvance, hst'⟩ := (ticked_of_tick htick).status hst
  have hran := ran_of_run hbefore
  rw [hran.policy, hran.next] at hadvance
  exact ⟨before, st, st', hbefore, hst, hst', hadvance⟩

theorem alive_of_run (hrun : (ofConfig c).run (ticks ++ [tick]) = .ok t) (hs : s ∈ c.services)
    (hevents : eventsOf s tick.batch ≠ []) (hst : t.status? s = some st) : st.alive = true := by
  obtain ⟨_, _, st', -, -, hst', hadvance⟩ := exists_advance_of_run hrun hs
  cases hst.symm.trans hst'
  exact alive_of_advance hevents hadvance

theorem rests_of_run (hordered : Ordered (ticks ++ [tick])) (hne : ticks ≠ [])
    (hrun : (ofConfig c).run (ticks ++ [tick]) = .ok t) (hs : s ∈ c.services) (hsilent : eventsOf s tick.batch = [])
    {before : Tracker} (hbefore : (ofConfig c).run ticks = .ok before) (hst : before.status? s = some st)
    (hst' : t.status? s = some st') : Rests st st' := by
  obtain ⟨_, _, _, hrun₁, hst₁, hst₁', hadvance⟩ := exists_advance_of_run hrun hs
  cases hbefore.symm.trans hrun₁
  cases hst.symm.trans hst₁
  cases hst'.symm.trans hst₁'
  -- The flags were last judged at the tick before, which was not later.
  obtain ⟨st₂, hst₂, hjudged⟩ := judged_of_run hbefore hs
  cases hst.symm.trans hst₂
  have hlast := hjudged _ (List.getLast?_eq_some_getLast hne)
  have hle : (ticks.getLast hne).now ≤ tick.now := by
    rw [Ordered, List.map_append, List.pairwise_append] at hordered
    exact hordered.2.2 _ (List.mem_map_of_mem (List.getLast_mem hne)) _ List.mem_cons_self
  exact rests_of_advance hlast hle hsilent hadvance

/-! ## From one receipt to the next -/

/-- A flag that never rises over some steps falls once at most. -/
theorem exists_fall (flag : Nat → Bool) {first last : Nat} (hle : first ≤ last)
    (h : ∀ n, first ≤ n → n < last → flag (n + 1) = true → flag n = true) :
    ∃ fall, ∀ n, first ≤ n → n ≤ last → (flag n = true ↔ flag first = true ∧ n < fall) := by
  induction last, hle using Nat.le_induction with
  | base =>
    refine ⟨first + 1, fun n hfirst hlast => ?_⟩
    cases Nat.le_antisymm hlast hfirst
    simp
  | succ last hle ih =>
    obtain ⟨fall, hfall⟩ := ih fun n hfirst hlast => h n hfirst (Nat.lt_succ_of_lt hlast)
    have hlast := hfall last hle (Nat.le_refl last)
    cases hflag : flag (last + 1) with
    | true =>
      -- It has not fallen yet, and so it has been up all the time.
      have hup := hlast.mp (h last hle (Nat.lt_succ_self last) hflag)
      refine ⟨last + 2, fun n hfirst hn => ?_⟩
      rcases Nat.le_succ_iff.mp hn with hn | rfl
      · have hlt : n < fall ↔ n < last + 2 := by
          omega
        rw [hfall n hfirst hn, hlt]
      · rw [hflag]
        exact iff_of_true rfl ⟨hup.1, by omega⟩
    | false =>
      refine ⟨min fall (last + 1), fun n hfirst hn => ?_⟩
      rcases Nat.le_succ_iff.mp hn with hn | rfl
      · have hlt : n < fall ↔ n < min fall (last + 1) := by
          omega
        rw [hfall n hfirst hn, hlt]
      · rw [hflag]
        simp

/-- While nothing more than in silence becomes of a status, the verdict on the rate is the same, and the service dies
once at most. -/
theorem exists_fall_of_rests {status : Nat → Status} {first last : Nat} (hle : first ≤ last)
    (h : ∀ n, first ≤ n → n < last → Rests (status n) (status (n + 1))) :
    ∃ fall, ∀ n, first ≤ n → n ≤ last → (status n).freqOk = (status first).freqOk
      ∧ ((status n).alive = true ↔ (status first).alive = true ∧ n < fall) := by
  obtain ⟨fall, hfall⟩ := exists_fall (fun n => (status n).alive) hle fun n hfirst hn => (h n hfirst hn).alive
  refine ⟨fall, fun n hfirst hn => ⟨?_, hfall n hfirst hn⟩⟩
  induction n, hfirst using Nat.le_induction with
  | base => rfl
  | succ n hfirst ih =>
    rw [(h n hfirst (by omega)).kept]
    exact ih (by omega)

/-- When the times of the ticks do not go back, every run goes through. A tick with a message of a service ends with
the service alive. From the second tick on, a tick without one leaves everything that is recorded of the service and
its verdict on the rate, and makes a dead service of a live one at most. So over any number of silent ticks that
follow each other the verdict on the rate is the same, and the service, which is alive if they follow a receipt, dies
once at most and does not come back to life. -/
theorem alive_falls_once (c : Config) (ticks : List Tick) (hvalid : c.validate = .ok ()) (hordered : Ordered ticks) :
    ∃ status : Nat → Service → Status,
      (∀ n ≤ ticks.length, ∃ t, (ofConfig c).run (ticks.take n) = .ok t
        ∧ ∀ s ∈ c.services, t.status? s = some (status n s))
      ∧ ∀ s ∈ c.services,
        (∀ n tick, ticks[n]? = some tick → eventsOf s tick.batch ≠ [] → (status (n + 1) s).alive = true)
        ∧ (∀ n tick, 0 < n → ticks[n]? = some tick → eventsOf s tick.batch = [] →
          Rests (status n s) (status (n + 1) s))
        ∧ ∀ first last, 0 < first → first ≤ last → last ≤ ticks.length →
          (∀ n tick, first ≤ n → n < last → ticks[n]? = some tick → eventsOf s tick.batch = []) →
          ∃ fall, ∀ n, first ≤ n → n ≤ last → (status n s).freqOk = (status first s).freqOk
            ∧ ((status n s).alive = true ↔ (status first s).alive = true ∧ n < fall) := by
  have hnodup := ((Config.validate_eq_ok_iff c).mp hvalid).2.2
  have hruns : ∀ n, ∃ t, (ofConfig c).run (ticks.take n) = .ok t := fun n => exists_run hnodup (hordered.take n)
  choose trackers hrun using hruns
  let status (n : Nat) (s : Service) : Status := ((trackers n).status? s).getD (Status.initial s)
  have hstatus : ∀ n, ∀ s ∈ c.services, (trackers n).status? s = some (status n s) := by
    intro n s hs
    obtain ⟨st, hst, -⟩ := recorded_of_run (hrun n) hs
    simp only [status, hst, Option.getD_some]
  -- The run up to a tick and with it.
  have hnext : ∀ n tick, ticks[n]? = some tick → ticks.take (n + 1) = ticks.take n ++ [tick] := by
    intro n tick htick
    rw [List.take_add_one, htick, Option.toList_some]
  have hrests : ∀ s ∈ c.services, ∀ n tick, 0 < n → ticks[n]? = some tick → eventsOf s tick.batch = [] →
      Rests (status n s) (status (n + 1) s) := by
    intro s hs n tick hpos htick hsilent
    have hrun' := hrun (n + 1)
    rw [hnext n tick htick] at hrun'
    have hprefix : Ordered (ticks.take n ++ [tick]) := by
      rw [← hnext n tick htick]
      exact hordered.take (n + 1)
    have hne : ticks.take n ≠ [] := by
      have hlt := (List.getElem?_eq_some_iff.mp htick).1
      rw [← List.length_pos_iff, List.length_take]
      omega
    exact rests_of_run hprefix hne hrun' hs hsilent (hrun n) (hstatus n s hs) (hstatus (n + 1) s hs)
  refine ⟨status, fun n _ => ⟨trackers n, hrun n, hstatus n⟩, fun s hs => ⟨?_, hrests s hs, ?_⟩⟩
  · intro n tick htick hevents
    have hrun' := hrun (n + 1)
    rw [hnext n tick htick] at hrun'
    exact alive_of_run hrun' hs hevents (hstatus (n + 1) s hs)
  · intro first last hpos hle hlast hsilent
    refine exists_fall_of_rests hle fun n hfirst hn => ?_
    have htick : ticks[n]? = some ticks[n] := List.getElem?_eq_getElem _
    exact hrests s hs n _ (by omega) htick (hsilent n _ hfirst hn htick)

/-- A service that is alive for a tenth of a second after a receipt, and one that always is. -/
def pausedConfig : Config := { services := [.carState, .userFlag] }

/-- Three silent ticks between two receipts; the first comes in time. -/
def pausedTicks : List Tick :=
  [⟨.ofMillis 12000, [some ⟨1, true, .carState {}⟩]⟩, ⟨.ofMillis 12050, []⟩,
    ⟨.ofMillis 12100, [some ⟨2, true, .userFlag⟩]⟩, ⟨.ofMillis 12150, [none]⟩,
    ⟨.ofMillis 12200, [some ⟨3, false, .carState {}⟩]⟩]

/-- The service is found dead at the second silent tick and stays so until the next receipt, and all the while the
verdict on its rate is the same. -/
theorem flags_of_pausedTicks : ∃ status : Nat → Status,
    (∀ n ≤ 5, ∃ t, (ofConfig pausedConfig).run (pausedTicks.take n) = .ok t ∧ t.status? .carState = some (status n))
      ∧ (status 1).alive = true ∧ (status 5).alive = true
      ∧ ∀ n, 3 ≤ n → n ≤ 4 → (status n).alive = false ∧ (status n).freqOk = (status 1).freqOk := by
  have hvalid : pausedConfig.validate = .ok () := (Config.validate_eq_ok_iff pausedConfig).mpr (by decide)
  have hordered : Ordered pausedTicks := by
    unfold Ordered
    decide
  have htracked : Service.carState ∈ pausedConfig.services := by decide
  obtain ⟨status, hrun, hflags⟩ := alive_falls_once pausedConfig pausedTicks hvalid hordered
  obtain ⟨halive, -, hstretch⟩ := hflags .carState htracked
  have hsilent : ∀ n tick, 1 ≤ n → n < 4 → pausedTicks[n]? = some tick → eventsOf .carState tick.batch = [] := by
    intro n tick hfirst hlast htick
    obtain rfl | rfl | rfl : n = 1 ∨ n = 2 ∨ n = 3 := by omega
    all_goals cases htick; decide
  obtain ⟨fall, hfall⟩ := hstretch 1 4 (by decide) (by decide) (by decide) hsilent
  -- Only when it dies has to be computed.
  have hdead : (((ofConfig pausedConfig).run (pausedTicks.take 3)).toOption.bind fun t => t.status? .carState).map
      Status.alive = some false := by
    decide +kernel
  obtain ⟨t, ht, hst⟩ := hrun 3 (by decide)
  rw [ht, Except.toOption, Option.bind_some, hst _ htracked, Option.map_some, Option.some.injEq] at hdead
  have hfirst : (status 1 .carState).alive = true := halive 0 _ rfl (by decide)
  have hbound : fall ≤ 3 := by
    by_contra hlate
    have hup := (hfall 3 (by decide) (by decide)).2.mpr ⟨hfirst, by omega⟩
    rw [hdead] at hup
    cases hup
  refine ⟨fun n => status n .carState, fun n hn => ?_, hfirst, halive 4 _ rfl (by decide), fun n hfrom hto => ?_⟩
  · obtain ⟨t, ht, hst⟩ := hrun n hn
    exact ⟨t, ht, hst _ htracked⟩
  · obtain ⟨hfreqOk, hup⟩ := hfall n (by omega) hto
    refine ⟨?_, hfreqOk⟩
    rw [Bool.eq_false_iff, Ne, hup]
    omega

end Tracker

end TopicHealth
