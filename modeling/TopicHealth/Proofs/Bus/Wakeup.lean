import TopicHealth.Bus.Wakeup
import TopicHealth.Proofs.Bus.Receive

/-!
# Polls that miss no message

A poll takes the tokens away before it looks at its readers, and a delivery leaves its token after the message. So
whatever the other party does between the steps, a message that a poll has not seen and will not come to has left a
token, or is about to.

* `Polling.stepPoll_cases`, `Polling.step_cases`: what a step of a poll and a move of the other party do.
* `Polling.Sound.steps`: no message is missed, by one move and by a run of moves.
* `Polling.Scanned.steps`: what a poll has looked at, and what it makes of that.
* `Polling.Prompt.steps`: a poll that is in time comes to its end with something.
-/

namespace TopicHealth

namespace Polling

variable {p : Polling} {r : Nat} {late : Bool} {move : Move} {moves : List Move}

/-! ## Moves -/

theorem steps_cons (p : Polling) (move : Move) (moves : List Move) :
    p.steps (move :: moves) = (p.step move).steps moves := rfl

theorem steps_append (p : Polling) (moves later : List Move) :
    p.steps (moves ++ later) = (p.steps moves).steps later := List.foldl_append

/-- The next step of a poll, by what the poll is doing. -/
theorem stepPoll_cases {P : Polling → Prop} (p : Polling) (late : Bool)
    (drain : p.phase = .draining → p.token = true → P { p with token := false })
    (start : p.phase = .draining → p.token = false → P { p with phase := .scanning [] p.readers false })
    (look : ∀ seen r left last, p.phase = .scanning seen (r :: left) last →
      P { p with phase := .scanning (if p.hasUnread r then seen ++ [r] else seen) left last })
    (finish : ∀ seen last, p.phase = .scanning seen [] last → late = true ∨ last = true ∨ seen ≠ [] →
      P { p with phase := .finished seen })
    (sleep : p.phase = .scanning [] [] false → late = false → P { p with phase := .waiting })
    (wake : p.phase = .waiting → p.token = true → P { p with token := false, phase := .draining })
    (expire : p.phase = .waiting → p.token = false → late = true → P { p with phase := .scanning [] p.readers true })
    (rest : p.phase = .waiting → p.token = false → late = false → P p)
    (done : ∀ ready, p.phase = .finished ready → P p) : P (p.stepPoll late) := by
  rw [stepPoll]
  split
  · rename_i hphase
    split_ifs with htoken
    · exact drain hphase htoken
    · exact start hphase (Bool.eq_false_iff.mpr htoken)
  · rename_i seen r left last hphase
    exact look seen r left last hphase
  · rename_i seen last hphase
    -- A scan that is over ends the poll, or lets it sleep: the one place where two outcomes share a phase.
    by_cases hend : (late || last || !seen.isEmpty) = true
    · rw [if_pos hend]
      simp only [Bool.or_eq_true, Bool.not_eq_true', List.isEmpty_eq_false_iff] at hend
      exact finish seen last hphase (or_assoc.mp hend)
    · rw [if_neg hend]
      simp only [Bool.or_eq_true, Bool.not_eq_true', List.isEmpty_eq_false_iff, not_or, Bool.not_eq_true,
        not_not] at hend
      obtain ⟨⟨hlate, rfl⟩, rfl⟩ := hend
      exact sleep hphase hlate
  · rename_i hphase
    split_ifs with htoken hlate
    · exact wake hphase htoken
    · exact expire hphase (Bool.eq_false_iff.mpr htoken) hlate
    · exact rest hphase (Bool.eq_false_iff.mpr htoken) (Bool.eq_false_iff.mpr hlate)
  · rename_i ready hphase
    exact done ready hphase

/-- A move is a step of the poll, or one of the other party, or cannot be made. -/
theorem step_cases {P : Polling → Prop} (p : Polling) (move : Move)
    (poll : ∀ late, move = .poll late → P (p.stepPoll late))
    (enqueue : ∀ d m, move = .enqueue d m → p.delivering = none →
      P { p with bus := p.bus.modifyReader d fun q => q.deliver m, delivering := some d })
    (wake : ∀ d, move = .wake → p.delivering = some d →
      P { p with token := p.token || p.readers.contains d, delivering := none })
    (take : ∀ d, move = .take d → p.delivering = none →
      P { p with bus := p.bus.modifyReader d fun q => { q with queue := q.queue.tail } })
    (stay : (∀ late, move ≠ .poll late) → P p) : P (p.step move) := by
  obtain ⟨bus, readers, token, phase, delivering⟩ := p
  cases move with
  | poll late => exact poll late rfl
  | enqueue d m =>
    cases delivering with
    | none => exact enqueue d m rfl rfl
    | some other => exact stay nofun
  | wake =>
    cases delivering with
    | none => exact stay nofun
    | some d => exact wake d rfl rfl
  | take d =>
    cases delivering with
    | none => exact take d rfl rfl
    | some other => exact stay nofun

theorem readers_stepPoll (p : Polling) (late : Bool) : (p.stepPoll late).readers = p.readers := by
  refine stepPoll_cases (P := fun q => q.readers = p.readers) p late ?_ ?_ ?_ ?_ ?_ ?_ ?_ ?_ ?_ <;> intros <;> rfl

theorem readers_step (p : Polling) (move : Move) : (p.step move).readers = p.readers := by
  apply step_cases (P := fun q => q.readers = p.readers)
  case poll =>
    intro late _
    exact p.readers_stepPoll late
  all_goals
    intros
    rfl

theorem readers_steps (p : Polling) (moves : List Move) : (p.steps moves).readers = p.readers := by
  induction moves generalizing p with
  | nil => rfl
  | cons move moves ih => rw [steps_cons, ih, readers_step]

/-! ## Unread messages -/

theorem hasUnread_eq_true_iff : p.hasUnread r = true ↔ ∃ q, p.bus.reader? r = some q ∧ q.queue ≠ [] := by
  rw [hasUnread, Option.any_eq_true]
  simp only [Bool.not_eq_true', List.isEmpty_eq_false_iff]

/-- Messages at a reader were there before, unless the reader itself was given some. -/
theorem hasUnread_of_modify {d : Nat} (f : Reader → Reader) (hf : ∀ q, (f q).id = q.id)
    (hempty : r = d → ∀ q, q.queue = [] → (f q).queue = []) {delivering : Option Nat}
    (h : hasUnread { p with bus := p.bus.modifyReader d f, delivering } r = true) : p.hasUnread r = true := by
  obtain ⟨q', hq', hqueue⟩ := hasUnread_eq_true_iff.mp h
  rw [p.bus.reader?_modifyReader d f hf] at hq'
  obtain ⟨q, hq, rfl⟩ := Option.map_eq_some_iff.mp hq'
  refine hasUnread_eq_true_iff.mpr ⟨q, hq, ?_⟩
  intro hnone
  apply hqueue
  split_ifs with hid
  · exact hempty ((Bus.id_of_reader? hq).symm.trans hid) q hnone
  · exact hnone

/-! ## No message is missed -/

/-- The poll comes to a reader yet, or comes to its end. -/
def WillSee (p : Polling) (r : Nat) : Prop :=
  match p.phase with
  | .draining | .finished _ => True
  | .scanning seen left last => r ∈ left ∨ seen ≠ [] ∨ last = true
  | .waiting => False

theorem not_willSee_of_waiting (h : p.phase = .waiting) (r : Nat) : ¬ p.WillSee r := by
  rw [WillSee, h]
  exact not_false

/-- All readers were looked at, and nothing was seen. -/
theorem not_willSee_of_scanned (h : p.phase = .scanning [] [] false) (r : Nat) : ¬ p.WillSee r := by
  rw [WillSee, h]
  simp

/-- Messages at a reader have left a token or are about to, unless the poll will see them anyway. -/
def Sound (p : Polling) : Prop :=
  ∀ r ∈ p.readers, p.hasUnread r = true →
    p.token = true ∨ (∃ d ∈ p.readers, p.delivering = some d) ∨ p.WillSee r

theorem sound_of_draining (h : p.phase = .draining) : p.Sound := by
  intro r _ _
  refine .inr (.inr ?_)
  rw [WillSee, h]
  trivial

/-- A step of the poll takes a token away only before it looks at all readers again. -/
theorem Sound.stepPoll (h : p.Sound) (late : Bool) : (p.stepPoll late).Sound := by
  apply stepPoll_cases (P := Sound)
  case drain =>
    intro hphase _
    exact sound_of_draining hphase
  case start =>
    intro _ _ r hr _
    exact .inr (.inr (.inl hr))
  case look =>
    intro seen first left last hphase r hr hunread
    -- A token and a delivery stay what they are. What the poll was to see is the reader at hand,
    -- one that is left, or anything at all if something has been seen.
    rcases h r hr hunread with htoken | hdelivering | hsee
    · exact .inl htoken
    · exact .inr (.inl hdelivering)
    · rw [WillSee, hphase] at hsee
      refine .inr (.inr ?_)
      rcases hsee with hleft | hseen | hlast
      · rcases List.mem_cons.mp hleft with rfl | hleft
        · -- The poll looks at this reader and sees the messages.
          have hunread' : p.hasUnread r = true := hunread
          refine .inr (.inl ?_)
          rw [if_pos hunread']
          exact List.append_ne_nil_of_right_ne_nil seen (List.cons_ne_nil r [])
        · exact .inl hleft
      · refine .inr (.inl ?_)
        split_ifs
        · exact List.append_ne_nil_of_left_ne_nil hseen [first]
        · exact hseen
      · exact .inr (.inr hlast)
  case finish =>
    intro _ _ _ _ r _ _
    exact .inr (.inr trivial)
  case sleep =>
    intro hphase _ r hr hunread
    rcases h r hr hunread with htoken | hdelivering | hsee
    · exact .inl htoken
    · exact .inr (.inl hdelivering)
    -- Falling asleep is safe as every reader was looked at: unread messages came since, with a token.
    · exact absurd hsee (not_willSee_of_scanned hphase r)
  case wake =>
    intro _ _
    exact sound_of_draining rfl
  case expire =>
    intro _ _ _ r hr _
    exact .inr (.inr (.inl hr))
  case rest =>
    intro _ _ _
    exact h
  case done =>
    intro _ _
    exact h

theorem Sound.step (h : p.Sound) (move : Move) : (p.step move).Sound := by
  apply step_cases (P := Sound)
  case poll =>
    intro late _
    exact h.stepPoll late
  case enqueue =>
    intro d m _ hnone r hr hunread
    -- Only a delivery to a reader of the poll can make messages unread there.
    by_cases hd : d ∈ p.readers
    · exact .inr (.inl ⟨d, hd, rfl⟩)
    · have hbefore : p.hasUnread r = true := by
        refine hasUnread_of_modify (fun q => q.deliver m) (fun _ => rfl) ?_ hunread
        rintro rfl
        exact absurd hr hd
      rcases h r hr hbefore with htoken | ⟨d', -, hdelivering⟩ | hsee
      · exact .inl htoken
      · rw [hnone] at hdelivering
        cases hdelivering
      · exact .inr (.inr hsee)
  case wake =>
    intro d _ hdelivering r hr hunread
    rcases h r hr hunread with htoken | ⟨d', hd', hsome⟩ | hsee
    · exact .inl (by simp [htoken])
    -- The token of the delivery under way is set before the delivery is forgotten.
    · cases hdelivering.symm.trans hsome
      exact .inl (by simp [hd'])
    · exact .inr (.inr hsee)
  case take =>
    intro d _ _ r hr hunread
    refine h r hr (hasUnread_of_modify (fun q => { q with queue := q.queue.tail }) (fun _ => rfl) ?_ hunread)
    intro _ q hnone
    exact congrArg List.tail hnone
  case stay => exact fun _ => h

theorem Sound.steps (h : p.Sound) (moves : List Move) : (p.steps moves).Sound := by
  induction moves generalizing p with
  | nil => exact h
  | cons move moves ih => exact ih (h.step move)

/-- Messages that a poll does not come to have left a token, where no delivery to one of its readers is under way. -/
theorem Sound.token (h : p.Sound) (hsee : ∀ r, ¬ p.WillSee r) (hdelivering : ∀ d ∈ p.readers, p.delivering ≠ some d)
    (hunread : ∃ r ∈ p.readers, p.hasUnread r = true) : p.token = true := by
  obtain ⟨r, hr, hunread⟩ := hunread
  rcases h r hr hunread with htoken | ⟨d, hd, hsome⟩ | hwill
  · exact htoken
  · exact absurd hsome (hdelivering d hd)
  · exact absurd hwill (hsee r)

/-! ## What a poll has seen -/

/-- What a move of the poll sees, if it looks at a reader: whether messages wait there. -/
def look? (p : Polling) : Move → Option (Nat × Bool)
  | .poll _ =>
    match p.phase with
    | .scanning _ (r :: _) _ => some (r, p.hasUnread r)
    | _ => none
  | _ => none

/-- All that a poll sees in a run of moves, one look after another. -/
def looks (p : Polling) : List Move → List (Nat × Bool)
  | [] => []
  | move :: moves => (p.look? move).toList ++ (p.step move).looks moves

/-- The readers at which messages were seen. -/
def seenIn (looks : List (Nat × Bool)) : List Nat := (looks.filter Prod.snd).map Prod.fst

theorem seenIn_concat (looks : List (Nat × Bool)) (r : Nat) (unread : Bool) :
    seenIn (looks ++ [(r, unread)]) = if unread then seenIn looks ++ [r] else seenIn looks := by
  rw [seenIn, List.filter_append, List.map_append]
  cases unread
  · exact List.append_nil _
  · rfl

/-- The last looks of a poll are at its readers in their order, as far as it has come, and it keeps those at which it
saw messages. -/
def Scanned (p : Polling) (looks : List (Nat × Bool)) : Prop :=
  match p.phase with
  | .draining | .waiting => True
  | .scanning seen left _ => ∃ earlier scan, looks = earlier ++ scan ∧ scan.map Prod.fst ++ left = p.readers
    ∧ seen = seenIn scan
  | .finished ready => ∃ earlier scan, looks = earlier ++ scan ∧ scan.map Prod.fst = p.readers ∧ ready = seenIn scan

variable {looks : List (Nat × Bool)}

theorem scanned_of_draining (h : p.phase = .draining) : p.Scanned looks := by
  rw [Scanned, h]
  trivial

theorem Scanned.stepPoll (h : p.Scanned looks) (late : Bool) :
    (p.stepPoll late).Scanned (looks ++ (p.look? (.poll late)).toList) := by
  apply stepPoll_cases (P := fun q => q.Scanned (looks ++ (p.look? (.poll late)).toList))
  case drain =>
    intro hphase _
    exact scanned_of_draining hphase
  case start =>
    intro _ _
    exact ⟨_, [], (List.append_nil _).symm, rfl, rfl⟩
  case look =>
    intro seen r left last hphase
    rw [Scanned, hphase] at h
    -- The look moves from the readers left to those scanned, and all together are still the readers.
    obtain ⟨earlier, scan, rfl, hreaders, rfl⟩ := h
    refine ⟨earlier, scan ++ [(r, p.hasUnread r)], ?_, ?_, (seenIn_concat _ _ _).symm⟩
    · rw [look?, hphase, List.append_assoc]
      rfl
    · rw [List.map_append, List.append_assoc]
      exact hreaders
  case finish =>
    intro seen last hphase _
    rw [Scanned, hphase] at h
    obtain ⟨earlier, scan, hlooks, hreaders, hseen⟩ := h
    refine ⟨earlier, scan, ?_, (List.append_nil _).symm.trans hreaders, hseen⟩
    rw [look?, hphase, hlooks]
    exact List.append_nil _
  case sleep | wake =>
    intros
    trivial
  case expire =>
    intro _ _ _
    exact ⟨_, [], (List.append_nil _).symm, rfl, rfl⟩
  case rest =>
    intro hphase _ _
    rw [Scanned, hphase]
    trivial
  case done =>
    intro ready hphase
    rw [look?, hphase]
    exact (List.append_nil looks).symm ▸ h

theorem Scanned.step (h : p.Scanned looks) (move : Move) :
    (p.step move).Scanned (looks ++ (p.look? move).toList) := by
  -- The other party does not look, and leaves the poll where it is.
  have hother : (∀ late, move ≠ .poll late) → looks ++ (p.look? move).toList = looks := by
    intro hmove
    cases move with
    | poll late => exact absurd rfl (hmove late)
    | enqueue | wake | take => exact List.append_nil looks
  apply step_cases (P := fun q => q.Scanned (looks ++ (p.look? move).toList))
  case poll =>
    rintro late rfl
    exact h.stepPoll late
  case enqueue =>
    rintro d m rfl _
    rw [hother nofun]
    exact h
  case wake =>
    rintro d rfl _
    rw [hother nofun]
    exact h
  case take =>
    rintro d rfl _
    rw [hother nofun]
    exact h
  case stay =>
    intro hmove
    rw [hother hmove]
    exact h

theorem Scanned.steps (h : p.Scanned looks) (moves : List Move) : (p.steps moves).Scanned (looks ++ p.looks moves) := by
  induction moves generalizing p looks with
  | nil =>
    rw [Polling.looks, List.append_nil]
    exact h
  | cons move moves ih =>
    rw [Polling.looks, ← List.append_assoc]
    exact ih (h.step move)

/-! ## Polls in time -/

/-- A poll whose time is not over does not look for the last time, and comes to its end with messages seen. -/
def Prompt (p : Polling) : Prop :=
  match p.phase with
  | .draining | .waiting => True
  | .scanning _ _ last => last = false
  | .finished ready => ready ≠ []

theorem prompt_of_draining (h : p.phase = .draining) : p.Prompt := by
  rw [Prompt, h]
  trivial

theorem Prompt.stepPoll (h : p.Prompt) : (p.stepPoll false).Prompt := by
  apply stepPoll_cases (P := Prompt)
  case look =>
    intro seen r left last hphase
    rw [Prompt, hphase] at h
    exact h
  case finish =>
    intro seen last hphase hend
    rw [Prompt, hphase] at h
    rcases hend with hlate | hlast | hseen
    · cases hlate
    · exact absurd (h.symm.trans hlast) Bool.false_ne_true
    · exact hseen
  case expire =>
    -- Only a late poll gives up its wait for a last scan.
    intro _ _ hlate
    cases hlate
  case start | sleep | wake =>
    intros
    trivial
  case drain | rest | done =>
    intros
    exact h

theorem Prompt.steps (h : p.Prompt) (hmoves : .poll true ∉ moves) : (p.steps moves).Prompt := by
  induction moves generalizing p with
  | nil => exact h
  | cons move moves ih =>
    rw [List.mem_cons, not_or] at hmoves
    obtain ⟨hmove, hrest⟩ := hmoves
    refine ih ?_ hrest
    apply step_cases (P := Prompt)
    case poll =>
      rintro late rfl
      cases late with
      | false => exact h.stepPoll
      | true => exact absurd rfl hmove
    all_goals
      intros
      exact h

end Polling

end TopicHealth
