import TopicHealth.Proofs.Session.Holders

/-!
# Publishing

An endpoint belongs to whoever made its publisher, alone or in a set, until that is dropped. Its flag is set for that
time: nothing else that the user does clears it, and an attempt to claim the endpoint once more changes nothing.

* `remains_run`: a holding that is not dropped keeps its publishers.
* `endpoint_exclusive`: what the flag of an endpoint tells, and who can claim it, after any moves.
-/

namespace TopicHealth.Session

variable {σ : Session} {place : Nat} {h : Holding} {p : Publisher} {endpoint : String}

/-! ## Claims -/

/-- The answer to an attempt to claim an endpoint that has a publisher. -/
def alreadyPublished (endpoint : String) : Answer := { reply := .refused (.bus (.alreadyPublished endpoint)) }

/-- The flag is set, and an attempt to set it again is refused. -/
theorem perform_openPublisher_of_held [Clock] (hσ : σ.Sound) (hp : p ∈ σ.publishers) :
    σ.perform (.openPublisher p.endpoint) = (σ, alreadyPublished p.endpoint) := by
  have hclaimed : σ.bus.claimed p.endpoint = true := hσ.published.claimed_iff.mpr ⟨p, hp, rfl⟩
  rw [perform, Bus.openPublisher_of_claimed hclaimed]
  rfl

/-- The flag of an endpoint that nobody holds is clear. -/
theorem claimed_of_free (hσ : σ.Sound) (hfree : ∀ p ∈ σ.publishers, p.endpoint ≠ endpoint) :
    σ.bus.claimed endpoint = false := by
  rw [Bool.eq_false_iff, ne_eq, hσ.published.claimed_iff]
  rintro ⟨p, hp, heq⟩
  exact hfree p hp heq

/-- An endpoint that nobody holds can be had. -/
theorem perform_openPublisher_of_free [Clock] (hσ : σ.Sound) (hfree : ∀ p ∈ σ.publishers, p.endpoint ≠ endpoint) :
    σ.reply (.openPublisher endpoint) = .done
      ∧ (σ.step (.openPublisher endpoint)).get? σ.holdings.length = some (.publisher ⟨endpoint⟩) := by
  rw [reply, step, perform, Bus.openPublisher_of_free (claimed_of_free hσ hfree)]
  refine ⟨rfl, get?_eq_some_iff.mpr ?_⟩
  exact List.getElem?_concat_length

/-- When a holding is dropped, its publishers and their endpoints go with it. -/
theorem free_of_drop [Clock] (hσ : σ.Sound) (hplace : σ.get? place = some h) (hp : p ∈ h.publishers) :
    ∀ q ∈ (σ.step (.drop place)).publishers, q.endpoint ≠ p.endpoint := by
  have hperm := perm_all_put (f := Holding.publishers) hplace none (h.drop σ.bus)
  rw [Option.elim_none, List.append_nil] at hperm
  -- The publishers that stay and those that go were there together, so they have no endpoint in common.
  have hnodup := (hperm.map Publisher.endpoint).nodup_iff.mpr hσ.published.nodup
  rw [List.map_append, List.nodup_append] at hnodup
  have hstep : σ.step (.drop place) = σ.put place none (h.drop σ.bus) := by
    rw [step, perform, hplace]
    rfl
  intro q hq
  rw [hstep] at hq
  exact hnodup.2.2 q.endpoint (List.mem_map_of_mem hq) p.endpoint (List.mem_map_of_mem hp)

/-! ## Holders -/

/-- A place has a holding with the publishers that one had there before. -/
def Remains (place : Nat) (h : Holding) (σ : Session) : Prop :=
  ∃ h', σ.get? place = some h' ∧ h'.publishers = h.publishers

theorem remains_concat (hplace : σ.get? place = some h) (more : List (Option Holding)) (b : Bus) :
    Remains place h ⟨b, σ.holdings ++ more⟩ := by
  rw [get?_eq_some_iff] at hplace
  obtain ⟨hlt, -⟩ := List.getElem?_eq_some_iff.mp hplace
  refine ⟨h, get?_eq_some_iff.mpr ?_, rfl⟩
  rw [List.getElem?_append_left hlt]
  exact hplace

/-- What is done to another place leaves this one alone. -/
theorem remains_put_ne {other : Nat} (hplace : σ.get? place = some h) (hne : other ≠ place) (h' : Option Holding)
    (b : Bus) : Remains place h (σ.put other h' b) := by
  rw [get?_eq_some_iff] at hplace
  refine ⟨h, get?_eq_some_iff.mpr ?_, rfl⟩
  rw [put, List.getElem?_set_ne hne]
  exact hplace

/-- A holding may be replaced by one with the same publishers, at whichever place. -/
theorem remains_put {other : Nat} {old h' : Holding} (hplace : σ.get? place = some h) (hother : σ.get? other = some old)
    (hsame : h'.publishers = old.publishers) (b : Bus) : Remains place h (σ.put other (some h') b) := by
  by_cases heq : other = place
  -- The holding at the place itself may be the one that is replaced.
  · subst heq
    cases hother.symm.trans hplace
    obtain ⟨hlt, -⟩ := List.getElem?_eq_some_iff.mp (get?_eq_some_iff.mp hplace)
    refine ⟨h', get?_eq_some_iff.mpr ?_, hsame⟩
    exact List.getElem?_set_self hlt
  · exact remains_put_ne hplace heq _ b

/-- A move other than dropping it leaves a holding its publishers. -/
theorem remains_step [Clock] {move : Move} (hplace : σ.get? place = some h) (hmove : move ≠ .drop place) :
    Remains place h (σ.step move) := by
  have hsame : ∀ b, Remains place h { σ with bus := b } := fun b => ⟨h, hplace, rfl⟩
  cases move with
  | openPublisher | openSet | subscribe | openAggregator | openNode =>
    exact make_leaves (fun b _ _ _ => hsame b) fun b _ _ _ => remains_concat hplace _ b
  | openPoller => exact remains_concat hplace _ σ.bus
  | clone => exact using?_leaves (hsame σ.bus) fun s _ => remains_concat hplace _ _
  | setTimeout other timeout =>
    refine using?_leaves (hsame σ.bus) fun s hs => remains_put hplace (subscriber?_eq_some_iff.mp hs) ?_ σ.bus
    rfl
  | register other subscriber =>
    refine using?_leaves (hsame σ.bus) fun p hp => using?_leaves (hsame σ.bus) fun s _ => ?_
    refine remains_put hplace (poller?_eq_some_iff.mp hp) ?_ _
    rfl
  | drop other =>
    have hne : other ≠ place := fun heq => hmove (congrArg Move.drop heq)
    exact using?_leaves (hsame σ.bus) fun _ _ => remains_put_ne hplace hne none _
  | send | readersUpdated => exact usingPublisher_leaves (hsame σ.bus) fun _ _ => hsame _
  | awaitReaders | receive => exact using?_leaves (hsame σ.bus) fun _ _ => call_leaves (hsame _) fun _ _ => hsame _
  | pending => exact using?_leaves (hsame σ.bus) fun _ _ => hsame σ.bus
  | poll =>
    exact using?_leaves (hsame σ.bus) fun _ _ => call_leaves (hsame _) fun ready _ => remains_concat hplace _ _
  | update other timeout start =>
    refine using?_leaves (hsame σ.bus) fun a ha => call_leaves (hsame _) fun a' _ => ?_
    -- An update leaves its aggregator the same subscribers and publishers, with another tracker.
    have hother : get? { σ with bus := ((a.update timeout σ.bus start).run start []).bus } other
        = some (.aggregator a) := aggregator?_eq_some_iff.mp ha
    refine remains_put hplace hother ?_ _
    rfl
  | setGates | setSignals => exact hsame _

/-- A holding keeps its publishers until it is dropped. -/
theorem remains_run [Clock] {later : List Move} (hplace : σ.get? place = some h) (hlater : .drop place ∉ later) :
    Remains place h (σ.run later) := by
  induction later generalizing σ h with
  | nil => exact ⟨h, hplace, rfl⟩
  | cons move later ih =>
    rw [List.mem_cons, not_or] at hlater
    obtain ⟨h', hplace', hsame'⟩ := remains_step hplace (Ne.symm hlater.1)
    obtain ⟨h'', hplace'', hsame''⟩ := ih hplace' hlater.2
    exact ⟨h'', hplace'', hsame''.trans hsame'⟩

/-! ## Exclusiveness -/

/-- After any moves the flag of an endpoint is set exactly if one publisher of it is held, and there are never two. A
publisher can be made exactly where none is held, and is held then. Where one is held, the attempt is refused with the
name of the endpoint and changes nothing. Whoever holds that publisher, alone or in a set, keeps it through whatever
comes until it is dropped: the flag stays set, and each attempt by then is refused. When it is dropped, the flag is
cleared, and the endpoint can be claimed again. -/
theorem endpoint_exclusive [Clock] (moves : List Move) (endpoint : String) :
    let σ := after moves
    (σ.publishers.map Publisher.endpoint).count endpoint = (σ.bus.claimed endpoint).toNat
      ∧ (σ.reply (.openPublisher endpoint) = .done ↔ ∀ p ∈ σ.publishers, p.endpoint ≠ endpoint)
      ∧ (σ.reply (.openPublisher endpoint) = .done →
        (σ.step (.openPublisher endpoint)).get? σ.holdings.length = some (.publisher ⟨endpoint⟩))
      ∧ ∀ place h p, σ.get? place = some h → p ∈ h.publishers → p.endpoint = endpoint →
        σ.perform (.openPublisher endpoint) = (σ, alreadyPublished endpoint)
          ∧ ∀ later, .drop place ∉ later →
            Remains place h (σ.run later) ∧ (σ.run later).bus.claimed endpoint = true
              ∧ (σ.run later).perform (.openPublisher endpoint) = (σ.run later, alreadyPublished endpoint)
              ∧ ((σ.run later).step (.drop place)).bus.claimed endpoint = false
              ∧ ((σ.run later).step (.drop place)).reply (.openPublisher endpoint) = .done := by
  intro σ
  have hσ : σ.Sound := sound_after moves
  have hfree : σ.reply (.openPublisher endpoint) = .done ↔ ∀ p ∈ σ.publishers, p.endpoint ≠ endpoint := by
    constructor
    · rintro hdone p hp rfl
      rw [reply, perform_openPublisher_of_held hσ hp] at hdone
      cases hdone
    · intro hfree
      exact (perform_openPublisher_of_free hσ hfree).1
  refine ⟨hσ.published.count endpoint, hfree, ?_, ?_⟩
  · intro hdone
    exact (perform_openPublisher_of_free hσ (hfree.mp hdone)).2
  · rintro place h p hplace hp rfl
    refine ⟨perform_openPublisher_of_held hσ (mem_publishers_of_get? hplace hp), ?_⟩
    intro later hlater
    have hlater' : (σ.run later).Sound := by
      have hrun := sound_after (moves ++ later)
      rw [after, run_append] at hrun
      exact hrun
    obtain ⟨h', hplace', hsame⟩ := remains_run hplace hlater
    rw [← hsame] at hp
    have hheld := mem_publishers_of_get? hplace' hp
    -- No other holding has a publisher of the endpoint, so after the drop there is none.
    have hgone := free_of_drop hlater' hplace' hp
    have hdropped := hlater'.step (.drop place)
    exact ⟨⟨h', hplace', hsame⟩, hlater'.published.claimed_iff.mpr ⟨p, hheld, rfl⟩,
      perform_openPublisher_of_held hlater' hheld, claimed_of_free hdropped hgone,
      (perform_openPublisher_of_free hdropped hgone).1⟩

/-- A set holds two endpoints, the first of which is then refused to a publisher and to another set. -/
def claimMoves : List Move :=
  [.openSet [.modelV2, .carState, .modelV2], .openPublisher "modelV2", .openSet [.userFlag, .carState]]

/-- The set keeps both of its endpoints through the attempts of others, until it is dropped. The flag of the endpoint
that it never had was set on the way, and is cleared. -/
theorem endpoint_exclusive_of_claimMoves :
    (∃ h p, (after claimMoves).get? 0 = some h ∧ p ∈ h.publishers ∧ p.endpoint = "carState")
      ∧ (after claimMoves).perform (.openPublisher "carState") = (after claimMoves, alreadyPublished "carState")
      ∧ ((after claimMoves).run [.openPublisher "userFlag"]).bus.claimed "carState" = true
      ∧ (((after claimMoves).run [.openPublisher "userFlag"]).step (.drop 0)).reply (.openPublisher "carState") = .done
      ∧ (after claimMoves).bus.claimed "userFlag" = false := by
  have hheld : ∃ h p, (after claimMoves).get? 0 = some h ∧ p ∈ h.publishers ∧ p.endpoint = "carState" :=
    ⟨_, ⟨"carState"⟩, rfl, by decide, rfl⟩
  obtain ⟨h, p, hplace, hp, hendpoint⟩ := hheld
  obtain ⟨-, -, -, hclaimed⟩ := endpoint_exclusive claimMoves "carState"
  obtain ⟨hrefused, hlater⟩ := hclaimed 0 h p hplace hp hendpoint
  obtain ⟨-, hset, -, -, hfree⟩ := hlater [.openPublisher "userFlag"] (by simp)
  exact ⟨⟨h, p, hplace, hp, hendpoint⟩, hrefused, hset, hfree, by decide⟩

end TopicHealth.Session
