import TopicHealth.Proofs.Aggregator.Turn
import TopicHealth.Proofs.Tracker.Exemption

/-!
# Exempting services

What becomes of an aggregator when its configuration exempts services from more. It also matters to the rate check
which services are waited for, and there a poll list may name services that are not tracked: such names can be left
out, unless no other is left.

* `verdicts_of_eased`: exempting from more keeps the record and every verdict that holds.
* `policy_withTrackedPoll`: when the names of a poll list that are not tracked make no difference.
* `open_withTrackedPoll`: what difference they make otherwise.
-/

namespace TopicHealth

variable {c c' : Tracker.Config} {s : Service}

namespace Aggregator

/-- Let one configuration exempt each service from at least as much as another one of the same services. Every run of
ticks that goes through for the stricter goes through for the milder. Both then know the same of each service, its
flags apart, and a verdict on tracked services that holds for the stricter holds for the milder. In simulation the
verdicts on timing hold of tracked services after any turns, and before the first. -/
theorem verdicts_of_eased [Clock] (c c' : Tracker.Config) (hvalid : c'.validate = .ok ())
    (hservices : ∀ s, s ∈ c'.services ↔ s ∈ c.services) (hpolicy : ∀ s ∈ c.services, c.policy.Eases s c'.policy) :
    (∀ ticks t, (Tracker.ofConfig c).run ticks = .ok t →
      ∃ t', (Tracker.ofConfig c').run ticks = .ok t' ∧ t'.frame = t.frame
        ∧ (∀ s ∈ c.services, ∃ st st', t.status? s = some st ∧ t'.status? s = some st'
          ∧ st' = { st with alive := st'.alive, freqOk := st'.freqOk, valid := st'.valid })
        ∧ ∀ selection : Option (List Service), (∀ s ∈ selection.getD c.services, s ∈ c.services) →
          (t.allAlive selection = true → t'.allAlive selection = true)
            ∧ (t.allFreqOk selection = true → t'.allFreqOk selection = true)
            ∧ (t.allValid selection = true → t'.allValid selection = true)
            ∧ (t.allChecks selection = true → t'.allChecks selection = true))
      ∧ (c'.simulation = true → ∀ b b' notices a a' turns (selection : Option (List Service)),
        Aggregator.open b c' = ⟨b', notices, .ok a⟩ → a.turns turns = some a' →
        (∀ s ∈ selection.getD c'.services, s ∈ c'.services) →
        a'.tracker.allAlive selection = true ∧ a'.tracker.allFreqOk selection = true) := by
  constructor
  · intro ticks t hrun
    have hnodup := ((Tracker.Config.validate_eq_ok_iff c').mp hvalid).2.2
    have hran := Tracker.ran_of_run hrun
    -- The milder run is found along the stricter one; the status of each service is compared tick by tick.
    obtain ⟨t', hrun', heases⟩ := (Tracker.eases_ofConfig hnodup hservices hpolicy).run hrun
    refine ⟨t', hrun', heases.frame, ?_, ?_⟩
    · intro s hs
      rw [← hran.services] at hs
      obtain ⟨st, st', hst, hst', heased⟩ := heases.status s hs
      exact ⟨st, st', hst, hst', heased.record⟩
    · intro selection htracked
      rw [← hran.services] at htracked
      exact ⟨heases.allAlive htracked, heases.allFreqOk htracked, heases.allValid htracked,
        heases.allChecks htracked⟩
  · intro hsimulation b b' notices a a' turns selection hopen hturns htracked
    obtain ⟨ticks, -, hrun⟩ := reached_of_turns hopen hturns
    have hran := Tracker.ran_of_run hrun
    -- In simulation the verdicts need no second run: they hold by the policy alone.
    have hselected : ∀ s ∈ a'.tracker.selected selection, s ∈ c'.services := by
      rw [Tracker.selected, hran.services]
      exact htracked
    exact ⟨Tracker.allAlive_of_simulation hsimulation hran.policy hselected,
      Tracker.allFreqOk_of_simulation hsimulation hran.policy hselected hran.services⟩

/-- One service exempt from the liveness check, and one that has no rate. -/
def strictConfig : Tracker.Config := { services := [.modelV2, .userFlag], ignoreAlive := [.modelV2] }

/-- The same services in simulation, of which one is exempt from the validity check as well. -/
def mildConfig : Tracker.Config :=
  { services := [.userFlag, .modelV2], ignoreValid := [.userFlag], simulation := true }

/-- A message of the service without a rate, which is not valid, and then one that is. -/
def flagTicks : List Tracker.Tick :=
  [⟨.ofMillis 9100, [some ⟨6, false, .userFlag⟩]⟩, ⟨.ofMillis 9200, [some ⟨7, true, .userFlag⟩]⟩]

/-- All the checks hold under the stricter policy, and so they do under the milder. -/
theorem verdicts_of_mildConfig : ∃ t t', (Tracker.ofConfig strictConfig).run flagTicks = .ok t
    ∧ (Tracker.ofConfig mildConfig).run flagTicks = .ok t' ∧ t'.frame = 1
    ∧ t.allChecks (some [.userFlag, .modelV2]) = true ∧ t'.allChecks (some [.userFlag, .modelV2]) = true := by
  have hvalid : mildConfig.validate = .ok () := (Tracker.Config.validate_eq_ok_iff mildConfig).mpr (by decide)
  have hservices : ∀ s, s ∈ mildConfig.services ↔ s ∈ strictConfig.services := by
    intro s
    cases s <;> decide
  have hpolicy : ∀ s ∈ strictConfig.services, strictConfig.policy.Eases s mildConfig.policy := by
    intro s hs
    constructor <;> revert s <;> decide
  have hreached : ∃ t, (Tracker.ofConfig strictConfig).run flagTicks = .ok t
      ∧ t.allChecks (some [.userFlag, .modelV2]) = true := ⟨_, rfl, by decide +kernel⟩
  obtain ⟨t, hrun, hchecks⟩ := hreached
  obtain ⟨heased, -⟩ := verdicts_of_eased strictConfig mildConfig hvalid hservices hpolicy
  obtain ⟨t', hrun', hframe, -, hverdicts⟩ := heased flagTicks t hrun
  have hframe' : t'.frame = 1 := by
    rw [hframe, (Tracker.ran_of_run hrun).frame]
    rfl
  obtain ⟨-, -, -, hkeeps⟩ := hverdicts (some [.userFlag, .modelV2]) (by decide)
  exact ⟨t, t', hrun, hrun', hframe', hchecks, hkeeps hchecks⟩

end Aggregator

/-! ## Poll lists -/

namespace Tracker.Config

/-- The configuration with the services that are not tracked left out of its poll list. -/
def withTrackedPoll (c : Config) : Config :=
  { c with poll := c.poll.map fun poll => poll.filter c.services.contains }

/-- The poll list makes no difference, or names a tracked service. -/
def PollsTracked (c : Config) : Prop := c.poll.getD [] = [] ∨ ∃ s ∈ c.poll.getD [], s ∈ c.services

/-- A list with a service in it, tracked or not, takes all services off the poller that are not in it. -/
theorem isNonPolled_eq_true_iff : c.isNonPolled s = true ↔ c.poll.getD [] ≠ [] ∧ s ∉ c.poll.getD [] := by
  rw [isNonPolled]
  cases c.poll <;> simp

theorem getD_poll_withTrackedPoll : c.withTrackedPoll.poll.getD [] = (c.poll.getD []).filter c.services.contains := by
  rw [withTrackedPoll]
  cases c.poll <;> rfl

theorem mem_poll_withTrackedPoll : s ∈ c.withTrackedPoll.poll.getD [] ↔ s ∈ c.poll.getD [] ∧ s ∈ c.services := by
  rw [getD_poll_withTrackedPoll, List.mem_filter, List.contains_iff_mem]

/-- Names that are not tracked make no difference as long as the poll list has others. -/
theorem isNonPolled_withTrackedPoll (h : c.PollsTracked) (hs : s ∈ c.services) :
    c.withTrackedPoll.isNonPolled s = c.isNonPolled s := by
  have hempty : c.withTrackedPoll.poll.getD [] = [] ↔ c.poll.getD [] = [] := by
    constructor
    · intro hnone
      rcases h with hpoll | ⟨r, hr, hr'⟩
      · exact hpoll
      · have hmem := mem_poll_withTrackedPoll.mpr ⟨hr, hr'⟩
        rw [hnone] at hmem
        cases hmem
    · intro hnone
      rw [getD_poll_withTrackedPoll, hnone]
      rfl
  rw [Bool.eq_iff_iff, isNonPolled_eq_true_iff, isNonPolled_eq_true_iff, Ne, Ne, hempty, mem_poll_withTrackedPoll,
    and_iff_left hs]

/-- It makes no difference to leave out the services that are not tracked, unless none is left. -/
theorem policy_withTrackedPoll (h : c.PollsTracked) : c.withTrackedPoll.policy = c.policy := by
  have hnonPolled : c.services.filter c.withTrackedPoll.isNonPolled = c.services.filter c.isNonPolled :=
    List.filter_congr fun _ hs => isNonPolled_withTrackedPoll h hs
  rw [policy, policy]
  exact congrArg (Policy.mk · _ _ _) hnonPolled

variable {ticks : List Tick} {t t' : Tracker}

/-- The two configurations exempt from the same checks, the rate check apart. -/
theorem ignored_of_runs (hrun : (ofConfig c).run ticks = .ok t)
    (hrun' : (ofConfig c.withTrackedPoll).run ticks = .ok t') :
    t.policy.ignoreAlive = t'.policy.ignoreAlive ∧ t.policy.ignoreValid = t'.policy.ignoreValid := by
  rw [(ran_of_run hrun).policy, (ran_of_run hrun').policy]
  exact ⟨rfl, rfl⟩

section NoneTracked

variable (h : ¬ c.PollsTracked)

include h

/-- A poll list of which no service is tracked keeps every service from being waited for. -/
theorem nonPolled_of_not_pollsTracked : c.policy.nonPolled = c.services := by
  rw [PollsTracked, not_or] at h
  refine List.filter_eq_self.mpr fun s hs => isNonPolled_eq_true_iff.mpr ⟨h.1, fun hpoll => h.2 ⟨s, hpoll, hs⟩⟩

/-- Without those names there is none left, and every service is waited for. -/
theorem nonPolled_withTrackedPoll : c.withTrackedPoll.policy.nonPolled = [] := by
  rw [PollsTracked, not_or] at h
  refine List.filter_eq_nil_iff.mpr fun s _ hnonPolled => ?_
  obtain ⟨hne, -⟩ := isNonPolled_eq_true_iff.mp hnonPolled
  obtain ⟨r, hr⟩ := List.exists_mem_of_ne_nil _ hne
  exact h.2 ⟨r, mem_poll_withTrackedPoll.mp hr⟩

/-- Where the list is left empty, every service is polled, which asks more of it. -/
theorem eases_withTrackedPoll : c.withTrackedPoll.policy.Eases s c.policy := by
  constructor
  case nonPolled =>
    rw [nonPolled_withTrackedPoll h]
    exact fun hs => absurd hs List.not_mem_nil
  case ignoreAlive => exact fun hs => hs
  case ignoreAvgFreq => exact fun hs => hs
  case ignoreValid => exact fun hs => hs

/-! ## Runs without a tracked name -/

/-- Nothing is waited for. -/
theorem isPolled_eq_false (hrun : (ofConfig c).run ticks = .ok t) (hs : s ∈ c.services) : t.isPolled s = false := by
  simp [Tracker.isPolled, (ran_of_run hrun).policy, nonPolled_of_not_pollsTracked h, hs]

/-- A service that is not waited for is held to no rate. -/
theorem not_rateCheckApplies (hrun : (ofConfig c).run ticks = .ok t) (hs : s ∈ c.services) (st : Status) :
    ¬ t.policy.rateCheckApplies s st = true := by
  refine not_rateCheckApplies_of_nonPolled ?_ st
  rw [(ran_of_run hrun).policy, nonPolled_of_not_pollsTracked h]
  exact hs

/-- With the list left empty everything is waited for. -/
theorem isPolled_of_run_withTrackedPoll (hrun' : (ofConfig c.withTrackedPoll).run ticks = .ok t')
    (hs : s ∈ c.services) : t'.isPolled s = true := by
  have hran' := ran_of_run hrun'
  have htracked : s ∈ t'.services := by
    rw [hran'.services]
    exact hs
  obtain ⟨st', hst'⟩ := exists_lookup_of_mem htracked
  have hcontains : t'.contains s = true := by
    rw [Tracker.contains, Tracker.status?, hst']
    rfl
  rw [Tracker.isPolled, hcontains, hran'.policy, nonPolled_withTrackedPoll h]
  rfl

/-- Only the rate flag tells two runs of the same ticks apart, and where nothing is waited for it is set. -/
theorem status_of_runs (hrun : (ofConfig c).run ticks = .ok t)
    (hrun' : (ofConfig c.withTrackedPoll).run ticks = .ok t') (heases : t'.Eases t) (hs : s ∈ c.services) :
    ∃ st st', t.status? s = some st ∧ t'.status? s = some st' ∧ st = { st' with freqOk := st.freqOk }
      ∧ (ticks ≠ [] → st.freqOk = true) := by
  have hs' : s ∈ t'.services := by
    rw [(ran_of_run hrun').services]
    exact hs
  obtain ⟨st', st, hst', hst, heased⟩ := heases.status s hs'
  obtain ⟨hignoreAlive, hignoreValid⟩ := ignored_of_runs hrun hrun'
  have halive := heased.sameAlive (hignoreAlive ▸ id)
  have hvalid := heased.sameValid (hignoreValid ▸ id)
  refine ⟨st, st', hst, hst', ?_, fun hne => ?_⟩
  · rw [heased.record, halive, hvalid]
  · obtain ⟨_, hsame, hexempted⟩ := exempted_of_run hrun hne hs
    cases hst.symm.trans hsame
    exact hexempted.freqOk (not_rateCheckApplies h hrun hs st)

end NoneTracked

end Tracker.Config

namespace Aggregator

/-- Let the services that are not tracked be left out of the poll list of a configuration. Where others are left, or
where there was no list to begin with, an aggregator that is opened is the same. Where none is left, every service is
waited for that was not before, and the rate check applies to it that did not; all else is the same after the same
ticks. -/
theorem open_withTrackedPoll (c : Tracker.Config) (hvalid : c.validate = .ok ()) :
    (c.PollsTracked → ∀ b, (Aggregator.open b c.withTrackedPoll).bus = (Aggregator.open b c).bus
        ∧ (Aggregator.open b c.withTrackedPoll).result = (Aggregator.open b c).result)
      ∧ (¬ c.PollsTracked → ∀ ticks t', (Tracker.ofConfig c.withTrackedPoll).run ticks = .ok t' →
        ∃ t, (Tracker.ofConfig c).run ticks = .ok t ∧ t.frame = t'.frame
          ∧ (∀ s ∈ c.services, t.isPolled s = false ∧ t'.isPolled s = true
            ∧ ∃ st st', t.status? s = some st ∧ t'.status? s = some st'
              ∧ st = { st' with freqOk := st.freqOk } ∧ (ticks ≠ [] → st.freqOk = true))
          ∧ ∀ selection : Option (List Service), t.allAlive selection = t'.allAlive selection
            ∧ t.allValid selection = t'.allValid selection
            ∧ ((∀ s ∈ selection.getD c.services, s ∈ c.services) → t.allFreqOk selection = true)) := by
  constructor
  · intro hpolls b
    have hpolicy := Tracker.Config.policy_withTrackedPoll hpolls
    have hvalidate : c.withTrackedPoll.validate = c.validate := rfl
    have htracker : Tracker.ofConfig c.withTrackedPoll = Tracker.ofConfig c := by
      rw [Tracker.ofConfig, Tracker.ofConfig, hpolicy]
      rfl
    have hconnect : connect c.withTrackedPoll.addr c.withTrackedPoll.policy.nonPolled c.withTrackedPoll.services b =
        connect c.addr c.policy.nonPolled c.services b := by
      rw [hpolicy]
      rfl
    simp only [Aggregator.open, hvalidate, hvalid, hconnect, htracker]
    -- Only what is reported of the poll list is not the same.
    split <;> exact ⟨rfl, rfl⟩
  · intro hpolls ticks t' hrun'
    have hnodup := ((Tracker.Config.validate_eq_ok_iff c).mp hvalid).2.2
    obtain ⟨t, hrun, heases⟩ := (Tracker.eases_ofConfig (c := c.withTrackedPoll) hnodup (fun _ => Iff.rfl)
      fun s _ => Tracker.Config.eases_withTrackedPoll hpolls).run hrun'
    obtain ⟨hignoreAlive, hignoreValid⟩ := Tracker.Config.ignored_of_runs hrun hrun'
    refine ⟨t, hrun, heases.frame, ?_, ?_⟩
    · intro s hs
      exact ⟨Tracker.Config.isPolled_eq_false hpolls hrun hs,
        Tracker.Config.isPolled_of_run_withTrackedPoll hpolls hrun' hs,
        Tracker.Config.status_of_runs hpolls hrun hrun' heases hs⟩
    · intro selection
      refine ⟨heases.allAlive_eq hignoreAlive, heases.allValid_eq hignoreValid, fun htracked => ?_⟩
      rw [← (Tracker.ran_of_run hrun).services] at htracked
      refine Tracker.allFreqOk_of_not_applies htracked fun s hs => ?_
      refine Tracker.Config.not_rateCheckApplies hpolls hrun ?_
      rw [← (Tracker.ran_of_run hrun).services]
      exact htracked s hs

/-- One service, and a poll list of another. -/
def strayConfig : Tracker.Config := { services := [.pandaStates], poll := some [.carState] }

/-- A first message that is late. -/
def lateTicks : List Tracker.Tick := [⟨.ofMillis 9300, [some ⟨8, true, .pandaStates []⟩]⟩]

/-- The service is below its rate, and the check holds all the same; without the other name it fails. -/
theorem allFreqOk_of_strayConfig : ∃ t t', strayConfig.validate = .ok () ∧ ¬ strayConfig.PollsTracked
    ∧ (Tracker.ofConfig strayConfig).run lateTicks = .ok t
    ∧ (Tracker.ofConfig strayConfig.withTrackedPoll).run lateTicks = .ok t'
    ∧ t.isPolled .pandaStates = false ∧ t'.isPolled .pandaStates = true
    ∧ t.allFreqOk (some [.pandaStates]) = true ∧ t'.allFreqOk (some [.pandaStates]) = false := by
  have hvalid : strayConfig.validate = .ok () := (Tracker.Config.validate_eq_ok_iff strayConfig).mpr (by decide)
  have hpolls : ¬ strayConfig.PollsTracked := by
    unfold Tracker.Config.PollsTracked
    decide
  have hslow : ∃ t', (Tracker.ofConfig strayConfig.withTrackedPoll).run lateTicks = .ok t'
      ∧ t'.allFreqOk (some [.pandaStates]) = false := ⟨_, rfl, by decide +kernel⟩
  obtain ⟨t', hrun', hslow⟩ := hslow
  obtain ⟨-, hstray⟩ := open_withTrackedPoll strayConfig hvalid
  obtain ⟨t, hrun, -, hstatus, hverdicts⟩ := hstray hpolls lateTicks t' hrun'
  obtain ⟨hpolled, hpolled', -⟩ := hstatus .pandaStates (by decide)
  obtain ⟨-, -, hspared⟩ := hverdicts (some [.pandaStates])
  exact ⟨t, t', hvalid, hpolls, hrun, hrun', hpolled, hpolled', hspared (by decide), hslow⟩

end Aggregator

end TopicHealth
