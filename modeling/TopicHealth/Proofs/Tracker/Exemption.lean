import TopicHealth.Proofs.Tracker.Verdict

/-!
# Exemptions

Of two policies one may exempt a service from at least as much as the other. Over the same ticks the record of the
service is then the same, and a flag that is set under the stricter policy is set under the milder one. So to exempt
a service from more never makes a check fail, nor a tick.

* `Policy.Eased.advance`: one tick, for one service.
* `Eases.run`: a run that goes through under the stricter policies goes through under the milder ones.
* `Eases.allAlive`, `Eases.allFreqOk`, `Eases.allValid`: a verdict that holds goes on to hold.
* `allAlive_of_simulation`, `allFreqOk_of_simulation`: in simulation the verdicts on timing hold of tracked services.
-/

namespace TopicHealth.Tracker

variable {p p' : Policy} {s : Service} {st st' : Status} {now : Duration} {frame : Int}
  {batch : List (Option Event)} {ticks : List Tick} {t t' u : Tracker} {selection : Option (List Service)}

/-! ## One service -/

/-- The second policy exempts a service from at least as much as the first. -/
structure Policy.Eases (s : Service) (p p' : Policy) : Prop where
  nonPolled : s ∈ p.nonPolled → s ∈ p'.nonPolled
  ignoreAlive : s ∈ p.ignoreAlive → s ∈ p'.ignoreAlive
  ignoreAvgFreq : s ∈ p.ignoreAvgFreq → s ∈ p'.ignoreAvgFreq
  ignoreValid : s ∈ p.ignoreValid → s ∈ p'.ignoreValid

/-- Two statuses of a service differ in their flags only. The second, under the milder policy, has every flag that the
first one has, and another for liveness or validity only where it is exempt from more. -/
structure Policy.Eased (s : Service) (p p' : Policy) (st st' : Status) : Prop where
  record : st' = { st with alive := st'.alive, freqOk := st'.freqOk, valid := st'.valid }
  alive : st.alive = true → st'.alive = true
  freqOk : st.freqOk = true → st'.freqOk = true
  valid : st.valid = true → st'.valid = true
  sameAlive : (s ∈ p'.ignoreAlive → s ∈ p.ignoreAlive) → st'.alive = st.alive
  sameValid : (s ∈ p'.ignoreValid → s ∈ p.ignoreValid) → st'.valid = st.valid

/-- A service is alive while it is exempt, or its last message is younger than its age limit, if it has one. -/
theorem aliveAt_eq_true_iff : p.aliveAt s st now = true ↔
    s ∈ p.ignoreAlive ∨ ∀ maxAge ∈ s.maxAge?, now - st.recvTime < maxAge := by
  rw [Policy.aliveAt]
  cases s.maxAge? <;> simp

namespace Policy.Eases

variable (h : p.Eases s p')

include h

theorem rateCheckApplies (happlies : p'.rateCheckApplies s st = true) : p.rateCheckApplies s st = true := by
  simp only [Policy.rateCheckApplies, Bool.and_eq_true, Bool.not_eq_true', ← Bool.not_eq_true,
    List.contains_iff_mem] at happlies ⊢
  obtain ⟨⟨⟨⟨hreceived, hrate⟩, hpolled⟩, havgFreq⟩, halive⟩ := happlies
  exact ⟨⟨⟨⟨hreceived, hrate⟩, mt h.nonPolled hpolled⟩, mt h.ignoreAvgFreq havgFreq⟩, mt h.ignoreAlive halive⟩

/-- A verdict on the rate that can be formed can be formed under the milder policy, which may do without one. -/
theorem keepsRate {freqOk : Bool} (hkeeps : p.keepsRate s st = .ok freqOk) :
    ∃ freqOk', p'.keepsRate s st = .ok freqOk' ∧ (freqOk = true → freqOk' = true) := by
  by_cases happlies : p'.rateCheckApplies s st = true
  · have hsame : p'.keepsRate s st = p.keepsRate s st := by
      rw [Policy.keepsRate, Policy.keepsRate, happlies, h.rateCheckApplies happlies]
    exact ⟨freqOk, hsame.trans hkeeps, fun hok => hok⟩
  · exact ⟨true, keepsRate_of_not_applies happlies, fun _ => rfl⟩

end Policy.Eases

namespace Policy.Eased

theorem refl (s : Service) (p p' : Policy) (st : Status) : p.Eased s p' st st :=
  ⟨rfl, fun h => h, fun h => h, fun h => h, fun _ => rfl, fun _ => rfl⟩

variable (hp : p.Eases s p') (h : p.Eased s p' st st')

include h

theorem exists_flags : ∃ alive freqOk valid, st' = { st with alive, freqOk, valid } := ⟨_, _, _, h.record⟩

/-- A tick begins. -/
theorem idle : p.Eased s p' { st with updated := false } { st' with updated := false } := by
  obtain ⟨alive, freqOk, valid, rfl⟩ := h.exists_flags
  exact ⟨rfl, h.alive, h.freqOk, h.valid, h.sameAlive, h.sameValid⟩

include hp

/-- One more message. -/
theorem takeIn (now : Duration) (frame : Int) (e : Event) :
    p.Eased s p' (p.record s st now frame e) (p'.record s st' now frame e) := by
  obtain ⟨alive, freqOk, valid, rfl⟩ := h.exists_flags
  rw [Policy.record_eq, Policy.record_eq]
  constructor
  case record => rfl
  case alive => exact h.alive
  case freqOk => exact h.freqOk
  case valid =>
    simp only [Bool.or_eq_true, List.contains_iff_mem]
    exact Or.imp_right hp.ignoreValid
  case sameAlive => exact h.sameAlive
  case sameValid =>
    intro hback
    rw [Bool.eq_iff_iff]
    simp only [Bool.or_eq_true, List.contains_iff_mem]
    exact or_congr_right ⟨hback, hp.ignoreValid⟩

/-- The messages of one tick. -/
theorem recordAll (now : Duration) (frame : Int) (events : List Event) :
    p.Eased s p' (p.recordAll s now frame events st) (p'.recordAll s now frame events st') := by
  induction events generalizing st st' with
  | nil => exact h
  | cons e events ih => exact ih (h.takeIn hp now frame e)

/-- Judging goes through under the milder policy, and sets the flags that are set under the stricter one. -/
theorem judge {after : Status} (hjudge : p.judge s st now = .ok after) :
    ∃ after', p'.judge s st' now = .ok after' ∧ p.Eased s p' after after' := by
  obtain ⟨freqOk, hkeeps, rfl⟩ := map_eq_ok hjudge
  obtain ⟨freqOk', hkeeps', hmore⟩ := hp.keepsRate hkeeps
  obtain ⟨alive, old, valid, rfl⟩ := h.exists_flags
  -- The flags that a status had before are not looked at.
  have hjudge' : p'.judge s { st with alive := alive, freqOk := old, valid := valid } now =
      .ok { st with alive := p'.aliveAt s st now, freqOk := freqOk', valid := valid } := by
    change (p'.keepsRate s st).map _ = _
    rw [hkeeps']
    rfl
  refine ⟨_, hjudge', ?_⟩
  constructor
  case record => rfl
  case alive =>
    simp only [aliveAt_eq_true_iff]
    exact Or.imp_left hp.ignoreAlive
  case freqOk => exact hmore
  case valid => exact h.valid
  case sameAlive =>
    intro hback
    rw [Bool.eq_iff_iff]
    simp only [aliveAt_eq_true_iff]
    exact or_congr_left ⟨hback, hp.ignoreAlive⟩
  case sameValid => exact h.sameValid

/-- One tick. -/
theorem advance {after : Status} (hadvance : p.advance s st now frame batch = .ok after) :
    ∃ after', p'.advance s st' now frame batch = .ok after' ∧ p.Eased s p' after after' :=
  (h.idle.recordAll hp now frame (eventsOf s batch)).judge hp hadvance

end Policy.Eased

/-! ## All services -/

/-- Two trackers of the same services have made the same ticks, the second under a policy that exempts each service
from at least as much. -/
structure Eases (t t' : Tracker) : Prop where
  frame : t'.frame = t.frame
  nodup : t'.services.Nodup
  services : ∀ s, s ∈ t'.services ↔ s ∈ t.services
  policy : ∀ s ∈ t.services, t.policy.Eases s t'.policy
  status : ∀ s ∈ t.services, ∃ st st', t.status? s = some st ∧ t'.status? s = some st' ∧
    t.policy.Eased s t'.policy st st'

/-- Nothing has been received yet, and so nothing tells the two trackers apart. -/
theorem eases_ofConfig {c c' : Config} (hnodup : c'.services.Nodup)
    (hservices : ∀ s, s ∈ c'.services ↔ s ∈ c.services) (hpolicy : ∀ s ∈ c.services, c.policy.Eases s c'.policy) :
    (ofConfig c).Eases (ofConfig c') := by
  constructor
  case frame => rfl
  case nodup =>
    rw [services_ofConfig]
    exact hnodup
  case services =>
    rw [services_ofConfig, services_ofConfig]
    exact hservices
  case policy =>
    rw [services_ofConfig]
    exact hpolicy
  case status =>
    rw [services_ofConfig]
    intro s hs
    exact ⟨_, _, status?_ofConfig hs, status?_ofConfig ((hservices s).mpr hs), .refl _ _ _ _⟩

namespace Eases

variable (h : t.Eases t')

include h

/-- One tick goes through under the milder policy as well. -/
theorem tick (htick : (t.tick now batch).2 = .ok u) : ∃ u', (t'.tick now batch).2 = .ok u' ∧ u.Eases u' := by
  have hticked := ticked_of_tick htick
  -- Each service advances as under the stricter policy, its flags apart.
  have hadvance : ∀ s ∈ t.services, ∃ st' after after', t'.status? s = some st' ∧ u.status? s = some after
      ∧ t'.policy.advance s st' now (t'.frame + 1) batch = .ok after' ∧ t.policy.Eased s t'.policy after after' := by
    intro s hs
    obtain ⟨st, st', hst, hst', heased⟩ := h.status s hs
    obtain ⟨after, hafter, hsame⟩ := hticked.status hst
    obtain ⟨after', hafter', heased'⟩ := heased.advance (h.policy s hs) hafter
    rw [← h.frame] at hafter'
    exact ⟨st', after, after', hst', hsame, hafter', heased'⟩
  have hgoes : ∃ u', (t'.tick now batch).2 = .ok u' := by
    apply exists_tick h.nodup
    intro s st' hst'
    have hs : s ∈ t.services := (h.services s).mp (key_mem_of_lookup hst')
    obtain ⟨st'', after, after', hst'', -, hafter', -⟩ := hadvance s hs
    cases hst'.symm.trans hst''
    exact ⟨after', hafter'⟩
  obtain ⟨u', htick'⟩ := hgoes
  have hticked' := ticked_of_tick htick'
  refine ⟨u', htick', ?_⟩
  constructor
  case frame => rw [hticked'.frame, hticked.frame, h.frame]
  case nodup =>
    rw [hticked'.services]
    exact h.nodup
  case services =>
    rw [hticked'.services, hticked.services]
    exact h.services
  case policy =>
    rw [hticked'.policy, hticked.policy, hticked.services]
    exact h.policy
  case status =>
    rw [hticked'.policy, hticked.policy, hticked.services]
    intro s hs
    obtain ⟨st', after, after', hst', hafter, hafter', heased⟩ := hadvance s hs
    obtain ⟨after'', hsame, hafter''⟩ := hticked'.status hst'
    cases hsame.symm.trans hafter'
    exact ⟨after, _, hafter, hafter'', heased⟩

/-- Ticks one after another. -/
theorem run (hrun : t.run ticks = .ok u) : ∃ u', t'.run ticks = .ok u' ∧ u.Eases u' := by
  induction ticks generalizing t t' with
  | nil =>
    cases hrun
    exact ⟨t', rfl, h⟩
  | cons tick ticks ih =>
    obtain ⟨next, hnext, hrest⟩ := run_cons_eq_ok_iff.mp hrun
    obtain ⟨next', hnext', heases⟩ := h.tick hnext
    obtain ⟨u', hrest', heases'⟩ := ih heases hrest
    exact ⟨u', run_cons_eq_ok_iff.mpr ⟨next', hnext', hrest'⟩, heases'⟩

/-! ## Verdicts -/

theorem mem_selected_iff : s ∈ t'.selected selection ↔ s ∈ t.selected selection := by
  rw [selected, selected]
  cases selection with
  | none => exact h.services s
  | some services => exact Iff.rfl

/-- A flag that the exemptions leave as it is tells the same, of tracked services and of others. -/
theorem passes_iff {flag : Status → Bool}
    (hflag : ∀ s st st', t.policy.Eased s t'.policy st st' → flag st' = flag st) :
    t'.Passes (flag · = true) s ↔ t.Passes (flag · = true) s := by
  by_cases hs : s ∈ t.services
  · obtain ⟨st, st', hst, hst', heased⟩ := h.status s hs
    simp [Passes, hst, hst', hflag s st st' heased]
  · constructor
    · intro hpasses
      exact absurd ((h.services s).mp (mem_services_of_passes hpasses)) hs
    · intro hpasses
      exact absurd (mem_services_of_passes hpasses) hs

/-- The liveness check asks about the same services, and gives the same verdict. -/
theorem allAlive_eq (hexempt : t'.policy.ignoreAlive = t.policy.ignoreAlive) :
    t'.allAlive selection = t.allAlive selection := by
  have hpasses : ∀ s, t'.Passes (·.alive = true) s ↔ t.Passes (·.alive = true) s := fun s =>
    h.passes_iff fun _ _ _ heased => heased.sameAlive (hexempt ▸ id)
  rw [Bool.eq_iff_iff, allAlive_eq_true_iff, allAlive_eq_true_iff]
  simp only [h.mem_selected_iff, hexempt, hpasses]

/-- So does the validity check. -/
theorem allValid_eq (hexempt : t'.policy.ignoreValid = t.policy.ignoreValid) :
    t'.allValid selection = t.allValid selection := by
  have hpasses : ∀ s, t'.Passes (·.valid = true) s ↔ t.Passes (·.valid = true) s := fun s =>
    h.passes_iff fun _ _ _ heased => heased.sameValid (hexempt ▸ id)
  rw [Bool.eq_iff_iff, allValid_eq_true_iff, allValid_eq_true_iff]
  simp only [h.mem_selected_iff, hexempt, hpasses]

/-- A service that is exempt or has a flag goes on to be exempt or to have it. -/
theorem exempt_or_passes {exempt exempt' : List Service} {flag : Status → Bool} (hs : s ∈ t.services)
    (hexempt : s ∈ exempt → s ∈ exempt')
    (hflag : ∀ st st', t.policy.Eased s t'.policy st st' → flag st = true → flag st' = true)
    (hholds : s ∈ exempt ∨ t.Passes (flag · = true) s) : s ∈ exempt' ∨ t'.Passes (flag · = true) s := by
  obtain ⟨st, st', hst, hst', heased⟩ := h.status s hs
  rcases hholds with hmem | ⟨_, hpasses, hset⟩
  · exact .inl (hexempt hmem)
  · cases hst.symm.trans hpasses
    exact .inr ⟨st', hst', hflag st st' heased hset⟩

variable (htracked : ∀ s ∈ t.selected selection, s ∈ t.services)

include htracked

theorem allAlive (hholds : t.allAlive selection = true) : t'.allAlive selection = true := by
  rw [allAlive_eq_true_iff] at hholds ⊢
  intro s hs
  have hselected := h.mem_selected_iff.mp hs
  have hs' := htracked s hselected
  exact h.exempt_or_passes hs' (h.policy s hs').ignoreAlive (fun _ _ heased => heased.alive) (hholds s hselected)

theorem allFreqOk (hholds : t.allFreqOk selection = true) : t'.allFreqOk selection = true := by
  rw [allFreqOk_eq_true_iff] at hholds ⊢
  intro s hs
  have hselected := h.mem_selected_iff.mp hs
  have hs' := htracked s hselected
  obtain ⟨st, st', hst, hst', heased⟩ := h.status s hs'
  obtain ⟨_, hpasses, hfreqOk⟩ := hholds s hselected
  cases hst.symm.trans hpasses
  refine ⟨st', hst', fun happlies => heased.freqOk (hfreqOk ?_)⟩
  -- Whether a message has come is the same in both.
  obtain ⟨alive, freqOk, valid, rfl⟩ := heased.exists_flags
  exact (h.policy s hs').rateCheckApplies happlies

theorem allValid (hholds : t.allValid selection = true) : t'.allValid selection = true := by
  rw [allValid_eq_true_iff] at hholds ⊢
  intro s hs
  have hselected := h.mem_selected_iff.mp hs
  have hs' := htracked s hselected
  exact h.exempt_or_passes hs' (h.policy s hs').ignoreValid (fun _ _ heased => heased.valid) (hholds s hselected)

theorem allChecks (hholds : t.allChecks selection = true) : t'.allChecks selection = true := by
  rw [allChecks_eq_true_iff] at hholds ⊢
  obtain ⟨halive, hfreqOk, hvalid⟩ := hholds
  exact ⟨h.allAlive htracked halive, h.allFreqOk htracked hfreqOk, h.allValid htracked hvalid⟩

end Eases

/-! ## Services held to no rate -/

theorem not_rateCheckApplies_of_nonPolled (h : s ∈ p.nonPolled) (st : Status) : ¬ p.rateCheckApplies s st = true := by
  simp [Policy.rateCheckApplies, h]

theorem not_rateCheckApplies_of_ignoreAvgFreq (h : s ∈ p.ignoreAvgFreq) (st : Status) :
    ¬ p.rateCheckApplies s st = true := by
  simp [Policy.rateCheckApplies, h]

/-- The rate check holds of tracked services none of which it applies to. -/
theorem allFreqOk_of_not_applies (htracked : ∀ s ∈ t.selected selection, s ∈ t.services)
    (hspared : ∀ s ∈ t.selected selection, ∀ st, ¬ t.policy.rateCheckApplies s st = true) :
    t.allFreqOk selection = true := by
  rw [allFreqOk_eq_true_iff]
  intro s hs
  obtain ⟨st, hst⟩ := exists_lookup_of_mem (htracked s hs)
  exact ⟨st, hst, fun happlies => absurd happlies (hspared s hs st)⟩

section Simulation

variable {c : Config} (hsimulation : c.simulation = true) (hpolicy : t.policy = c.policy)
  (htracked : ∀ s ∈ t.selected selection, s ∈ c.services)

include hsimulation hpolicy htracked

theorem allAlive_of_simulation : t.allAlive selection = true := by
  rw [allAlive_eq_true_iff, hpolicy, Config.policy, hsimulation]
  intro s hs
  exact .inl (htracked s hs)

theorem allFreqOk_of_simulation (hservices : t.services = c.services) : t.allFreqOk selection = true := by
  rw [← hservices] at htracked
  refine allFreqOk_of_not_applies htracked fun s hs => not_rateCheckApplies_of_ignoreAvgFreq ?_
  rw [hpolicy, Config.policy, hsimulation]
  exact hservices ▸ htracked s hs

end Simulation

end TopicHealth.Tracker
