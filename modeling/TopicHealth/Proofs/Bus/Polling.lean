import TopicHealth.Proofs.Bus.Wakeup

/-!
# Polls that come to their end

A poll ends once messages wait that nobody takes, and once its time is over: each step then brings it nearer to its end,
by a rank. By itself it ends with the subscribers that are ready, which is what it does as an operation on the bus. What
a delivery to a reader makes it drop, which keeps the newest message only, may be taken message by message before.

* `Polling.rank_stepPoll`, `Polling.finished_of_rank_le`: the rank of a poll, and what it bounds.
* `Poller.polling_alone`: a poll with nobody else at work.
* `Poller.wakeup_of_moves`: any moves of a poll and another party.
-/

namespace TopicHealth

namespace Polling

variable {p : Polling} {r : Nat} {late : Bool} {looks : List (Nat × Bool)}

/-! ## The rank of a poll -/

theorem bus_stepPoll (p : Polling) (late : Bool) : (p.stepPoll late).bus = p.bus := by
  refine stepPoll_cases (P := fun q => q.bus = p.bus) p late ?_ ?_ ?_ ?_ ?_ ?_ ?_ ?_ ?_ <;> intros <;> rfl

theorem delivering_stepPoll (p : Polling) (late : Bool) : (p.stepPoll late).delivering = p.delivering := by
  refine stepPoll_cases (P := fun q => q.delivering = p.delivering) p late ?_ ?_ ?_ ?_ ?_ ?_ ?_ ?_ ?_ <;> intros <;>
    rfl

theorem hasUnread_stepPoll (p : Polling) (late : Bool) (r : Nat) : (p.stepPoll late).hasUnread r = p.hasUnread r := by
  rw [hasUnread, hasUnread, bus_stepPoll]

/-- A poll that has come to its end stays there. -/
theorem phase_steps_of_finished {ready : List Nat} (h : p.phase = .finished ready) (moves : List Move) :
    (p.steps moves).phase = .finished ready := by
  induction moves generalizing p with
  | nil => exact h
  | cons move moves ih =>
    refine ih ?_
    apply step_cases (P := fun q => q.phase = .finished ready)
    case poll =>
      intro late _
      rw [stepPoll, h]
      exact h
    all_goals
      intros
      exact h

/-- The poll has reason to end: it is late from now on, or messages wait for it that nobody will take. -/
def Bound (p : Polling) (late : Bool) : Prop :=
  late = true ∨ p.Sound ∧ p.delivering = none ∧ ∃ r ∈ p.readers, p.hasUnread r = true

/-- A scan ends the poll: the poll is late, or has seen messages, or will. -/
def isFinal (p : Polling) (late : Bool) (seen left : List Nat) (last : Bool) : Bool :=
  late || last || !seen.isEmpty || left.any p.hasUnread

/-- How many steps a poll takes yet at most that has reason to end. A scan that does not end it is followed by another
one, which does. -/
def rank (p : Polling) (late : Bool) : Nat :=
  match p.phase with
  | .finished _ => 0
  | .scanning seen left last => left.length + 1 + if p.isFinal late seen left last then 0 else p.readers.length + 3
  | .draining | .waiting => p.readers.length + 2 + p.token.toNat

/-- A step of the poll takes nothing away of what binds it to end: what it has found is still there. -/
theorem Bound.stepPoll (h : p.Bound late) (late' : Bool) : (p.stepPoll late').Bound late := by
  rcases h with hlate | ⟨hsound, hdelivering, r, hr, hunread⟩
  · exact .inl hlate
  · refine .inr ⟨hsound.stepPoll late', (p.delivering_stepPoll late').trans hdelivering, r, ?_, ?_⟩
    · rw [readers_stepPoll]
      exact hr
    · rw [hasUnread_stepPoll]
      exact hunread

/-- A poll that is not late and does not come to the messages that wait is woken by a token. -/
theorem Bound.token (h : p.Bound false) (hsee : ∀ r, ¬ p.WillSee r) : p.token = true := by
  rcases h with hlate | ⟨hsound, hdelivering, hunread⟩
  · cases hlate
  · refine hsound.token hsee ?_ hunread
    intro d _ hsome
    rw [hdelivering] at hsome
    cases hsome

theorem Bound.isFinal (h : p.Bound late) (seen : List Nat) (last : Bool) :
    p.isFinal late seen p.readers last = true := by
  rw [Polling.isFinal, Bool.or_eq_true, Bool.or_eq_true, Bool.or_eq_true]
  rcases h with hlate | ⟨-, -, hunread⟩
  · exact .inl (.inl (.inl hlate))
  · exact .inr (List.any_eq_true.mpr hunread)

/-- Looking at a reader does not change whether the scan ends the poll. -/
theorem isFinal_look (p : Polling) (late : Bool) (seen : List Nat) (r : Nat) (left : List Nat) (last : Bool) :
    p.isFinal late (if p.hasUnread r then seen ++ [r] else seen) left last = p.isFinal late seen (r :: left) last := by
  rw [isFinal, isFinal, List.any_cons]
  cases p.hasUnread r <;> simp

section Rank

variable {seen left ready : List Nat} {last : Bool}

theorem rank_of_finished (h : p.phase = .finished ready) : p.rank late = 0 := by
  rw [rank, h]

/-- A scan that may not be the last one has the room for a wait and one more scan on top. -/
theorem rank_of_scanning (h : p.phase = .scanning seen left last) :
    p.rank late = left.length + 1 + if p.isFinal late seen left last then 0 else p.readers.length + 3 := by
  rw [rank, h]

theorem rank_of_final (h : p.phase = .scanning seen left last) (hfinal : p.isFinal late seen left last = true) :
    p.rank late = left.length + 1 := by
  rw [rank_of_scanning h, if_pos hfinal, Nat.add_zero]

theorem rank_of_draining (h : p.phase = .draining) : p.rank late = p.readers.length + 2 + p.token.toNat := by
  rw [rank, h]

/-- Woken from its wait, the poll scans once more. -/
theorem rank_of_waiting (h : p.phase = .waiting) : p.rank late = p.readers.length + 2 + p.token.toNat := by
  rw [rank, h]

end Rank

/-- Every step takes a poll that has reason to end nearer to its end. -/
theorem rank_stepPoll {late' : Bool} (h : p.Bound late) (hlate : late = true → late' = true)
    (hgoing : ∀ ready, p.phase ≠ .finished ready) : (p.stepPoll late').rank late < p.rank late := by
  have hnone : late' = false → late = false := by
    rintro rfl
    exact Bool.eq_false_iff.mpr fun htrue => Bool.false_ne_true (hlate htrue)
  apply stepPoll_cases (P := fun q => q.rank late < p.rank late)
  case drain =>
    intro hphase htoken
    have hdrained : rank { p with token := false } late = p.readers.length + 2 := rank_of_draining hphase
    rw [hdrained, rank_of_draining hphase, htoken]
    exact Nat.lt_succ_self _
  case start =>
    intro hphase htoken
    have hscan : rank { p with phase := .scanning [] p.readers false } late = p.readers.length + 1 :=
      rank_of_final rfl (h.isFinal [] false)
    rw [hscan, rank_of_draining hphase, htoken]
    exact Nat.lt_succ_self _
  case look =>
    intro seen r left last hphase
    have hfinal := p.isFinal_look late seen r left last
    rw [rank_of_scanning rfl, rank_of_scanning hphase, ← hfinal, List.length_cons]
    exact Nat.add_lt_add_right (Nat.lt_succ_self _) _
  case finish =>
    intro seen last hphase _
    rw [rank_of_finished rfl, rank_of_scanning hphase]
    exact Nat.add_pos_left (Nat.succ_pos _) _
  case sleep =>
    intro hphase hlate'
    have hfalse := hnone hlate'
    subst hfalse
    -- The messages that the scan missed have left a token, which the wait is charged for.
    have hfinal : p.isFinal false [] [] false = false := rfl
    rw [rank_of_waiting rfl, rank_of_scanning hphase, hfinal, h.token (not_willSee_of_scanned hphase),
      if_neg Bool.false_ne_true, Bool.toNat_true, List.length_nil]
    dsimp only
    omega
  case wake =>
    intro hphase htoken
    rw [rank_of_draining rfl, rank_of_waiting hphase, htoken]
    exact Nat.lt_succ_self _
  case expire =>
    intro hphase htoken _
    have hscan : rank { p with phase := .scanning [] p.readers true } late = p.readers.length + 1 :=
      rank_of_final rfl (h.isFinal [] true)
    rw [hscan, rank_of_waiting hphase, htoken]
    exact Nat.lt_succ_self _
  case rest =>
    intro hphase htoken hlate'
    have hfalse := hnone hlate'
    subst hfalse
    -- The poll would sleep on, with messages unread and no token: its invariant forbids this.
    have hsome := h.token (not_willSee_of_waiting hphase)
    rw [htoken] at hsome
    cases hsome
  case done =>
    intro ready hdone
    exact absurd hdone (hgoing ready)

/-- Every step lowers the rank, so that as many steps are enough. -/
theorem finished_of_rank_le (h : p.Bound late) {lates : List Bool} (hlates : late = true → ∀ l ∈ lates, l = true)
    (hrank : p.rank late ≤ lates.length) : ∃ ready, (p.steps (lates.map .poll)).phase = .finished ready := by
  induction lates generalizing p with
  | nil =>
    by_contra hgoing
    have hlt := rank_stepPoll h (fun hlate => hlate) fun ready hready => hgoing ⟨ready, hready⟩
    exact absurd (Nat.lt_of_lt_of_le hlt hrank) (Nat.not_lt_zero _)
  | cons l lates ih =>
    by_cases hgoing : ∃ ready, p.phase = .finished ready
    -- A poll that has ended does not move again, with steps to spare.
    · obtain ⟨ready, hready⟩ := hgoing
      exact ⟨ready, phase_steps_of_finished hready _⟩
    · have hlt := rank_stepPoll h (fun hlate => hlates hlate l List.mem_cons_self) fun ready hready =>
        hgoing ⟨ready, hready⟩
      refine ih (h.stepPoll l) (fun hlate l' hl' => hlates hlate l' (List.mem_cons_of_mem l hl')) ?_
      exact Nat.le_of_lt_succ (Nat.lt_of_lt_of_le hlt hrank)

/-- A scan has as many readers left as there are, at most. -/
theorem Scanned.length_le {seen left : List Nat} {last : Bool} (h : p.Scanned looks)
    (hphase : p.phase = .scanning seen left last) : left.length ≤ p.readers.length := by
  rw [Scanned, hphase] at h
  obtain ⟨earlier, scan, -, hreaders, -⟩ := h
  rw [← hreaders, List.length_append]
  exact Nat.le_add_left _ _

/-- A poll that is late ends with the scan that it is at, or with the next one. One that is not late may have to be
woken between the two. -/
theorem Scanned.rank_le (h : p.Scanned looks) (late : Bool) :
    p.rank late ≤ p.readers.length + if late then 3 else p.readers.length + 4 := by
  have htoken := p.token.toNat_le
  cases hphase : p.phase with
  | draining =>
    rw [rank_of_draining hphase]
    split_ifs <;> omega
  | waiting =>
    rw [rank_of_waiting hphase]
    split_ifs <;> omega
  | scanning seen left last =>
    have hleft := h.length_le hphase
    cases late with
    | true =>
      rw [rank_of_final hphase rfl, if_pos rfl]
      omega
    | false =>
      rw [rank_of_scanning hphase, if_neg Bool.false_ne_true]
      split_ifs <;> omega
  | finished ready =>
    rw [rank_of_finished hphase]
    exact Nat.zero_le _

/-- Messages wait, no delivery is under way, and nobody else does anything from there on: the poll comes to its end,
with messages seen if it is in time. -/
theorem exists_finished_of_unread (hsound : p.Sound) (hscanned : p.Scanned looks) (hprompt : p.Prompt)
    (hdelivering : p.delivering = none) (hunread : ∃ r ∈ p.readers, p.hasUnread r = true) {n : Nat}
    (hn : 2 * p.readers.length + 4 ≤ n) :
    ∃ ready, ready ≠ [] ∧ (p.steps (List.replicate n (.poll false))).phase = .finished ready := by
  have hrank : p.rank false ≤ (List.replicate n false).length := by
    rw [List.length_replicate]
    refine Nat.le_trans (hscanned.rank_le false) ?_
    rw [if_neg Bool.false_ne_true]
    omega
  have hbound : p.Bound false := .inr ⟨hsound, hdelivering, hunread⟩
  obtain ⟨ready, hready⟩ := finished_of_rank_le hbound (fun hlate => absurd hlate Bool.false_ne_true) hrank
  rw [List.map_replicate] at hready
  have hmoves : Move.poll true ∉ List.replicate n (Move.poll false) := by
    simp
  have hend := hprompt.steps hmoves
  rw [Prompt, hready] at hend
  exact ⟨ready, hend, hready⟩

/-- A poll whose time is over ends with the scan that it is at, or with one more. -/
theorem exists_finished_of_late (hscanned : p.Scanned looks) {n : Nat} (hn : p.readers.length + 3 ≤ n) :
    ∃ ready, (p.steps (List.replicate n (.poll true))).phase = .finished ready := by
  have hrank : p.rank true ≤ (List.replicate n true).length := by
    rw [List.length_replicate]
    exact Nat.le_trans (hscanned.rank_le true) hn
  have hlates : true = true → ∀ l ∈ List.replicate n true, l = true := fun _ l hl => (List.mem_replicate.mp hl).2
  obtain ⟨ready, hready⟩ := finished_of_rank_le (.inl rfl) hlates hrank
  rw [List.map_replicate] at hready
  exact ⟨ready, hready⟩

/-! ## Polls with nobody else at work -/

/-- A poll by itself always sees the same. -/
theorem look_eq_of_polls {lates : List Bool} {look : Nat × Bool} (h : look ∈ p.looks (lates.map .poll)) :
    look.2 = p.hasUnread look.1 := by
  induction lates generalizing p with
  | nil => cases h
  | cons late lates ih =>
    rcases List.mem_append.mp h with h | h
    · rw [look?, Option.mem_toList] at h
      split at h
      · cases h
        rfl
      · cases h
    · have hstep : p.step (.poll late) = p.stepPoll late := rfl
      rw [ih h, hstep, hasUnread_stepPoll]

theorem seenIn_eq_filter {scan : List (Nat × Bool)} (h : ∀ look ∈ scan, look.2 = p.hasUnread look.1) :
    seenIn scan = (scan.map Prod.fst).filter p.hasUnread := by
  rw [seenIn, List.filter_map]
  exact congrArg _ (List.filter_congr h)

/-- What a poll comes to its end with that goes on by itself and has not looked at any reader yet. -/
theorem ready_of_polls (hbegin : p.Scanned []) {lates : List Bool} {ready : List Nat}
    (h : (p.steps (lates.map .poll)).phase = .finished ready) : ready = p.readers.filter p.hasUnread := by
  have hscanned := hbegin.steps (lates.map .poll)
  rw [Scanned, h, List.nil_append, readers_steps] at hscanned
  obtain ⟨earlier, scan, hlooks, hreaders, rfl⟩ := hscanned
  have hseen : ∀ look ∈ scan, look.2 = p.hasUnread look.1 := by
    intro look hlook
    have hmem : look ∈ p.looks (lates.map .poll) := hlooks ▸ List.mem_append_right earlier hlook
    exact look_eq_of_polls hmem
  rw [← hreaders]
  exact seenIn_eq_filter hseen

end Polling

/-! ## Pollers -/

namespace Poller

open Polling (Move)

variable {p : Poller} {b : Bus}

/-- The subscribers that are ready, by their readers. -/
theorem readers_ready (p : Poller) (b : Bus) (token : Bool) :
    (p.ready b).map Subscriber.reader = p.readers.filter (p.polling b token).hasUnread := by
  have hpending : ∀ s : Subscriber, decide (0 < b.pending s) = (p.polling b token).hasUnread s.reader := by
    intro s
    rw [Bool.eq_iff_iff, decide_eq_true_iff, Polling.hasUnread_eq_true_iff, Bus.pending, List.length_pos_iff, Bus.queue]
    change _ ↔ ∃ q, b.reader? s.reader = some q ∧ q.queue ≠ []
    cases b.reader? s.reader with
    | none => simp
    | some q => simp
  rw [ready, readers, List.filter_map, List.filter_congr fun s _ => hpending s]
  rfl

/-- A poll by itself ends with the subscribers that are ready: soon if there are any, and soon after it is late in any
case. -/
theorem polling_alone (p : Poller) (b : Bus) (token : Bool) (lates : List Bool) :
    let alone := (p.polling b token).steps (lates.map .poll)
    (∀ ready, alone.phase = .finished ready → ready = (p.ready b).map Subscriber.reader)
      ∧ (p.ready b ≠ [] → p.readers.length + 3 ≤ lates.length →
        alone.phase = .finished ((p.ready b).map Subscriber.reader))
      ∧ ∀ n, p.readers.length + 3 ≤ n →
        (alone.steps (List.replicate n (.poll true))).phase = .finished ((p.ready b).map Subscriber.reader) := by
  intro alone
  have hscanned : (p.polling b token).Scanned [] := Polling.scanned_of_draining rfl
  -- Nobody else moves, so each look of the last scan sees what waits now.
  have hresult : ∀ (lates : List Bool) ready,
      ((p.polling b token).steps (lates.map .poll)).phase = .finished ready →
        ready = (p.ready b).map Subscriber.reader := by
    intro lates ready hready
    rw [readers_ready p b token]
    exact Polling.ready_of_polls hscanned hready
  refine ⟨hresult lates, ?_, ?_⟩
  · intro hready hlates
    have hunread : ∃ r ∈ (p.polling b token).readers, (p.polling b token).hasUnread r = true := by
      have hne : p.readers.filter (p.polling b token).hasUnread ≠ [] := by
        rw [← readers_ready p b token]
        exact mt List.map_eq_nil_iff.mp hready
      obtain ⟨r, hr⟩ := List.exists_mem_of_ne_nil _ hne
      exact ⟨r, List.mem_filter.mp hr⟩
    have hsound : (p.polling b token).Sound := Polling.sound_of_draining rfl
    have hrank : (p.polling b token).rank false ≤ lates.length := by
      have htoken := token.toNat_le
      refine Nat.le_trans ?_ hlates
      rw [Polling.rank_of_draining rfl]
      exact Nat.add_le_add_left htoken _
    obtain ⟨ready, hfinished⟩ := Polling.finished_of_rank_le (.inr ⟨hsound, rfl, hunread⟩)
      (fun hlate => absurd hlate Bool.false_ne_true) hrank
    rw [← hresult lates ready hfinished]
    exact hfinished
  · intro n hn
    -- The late steps come after those of the first part, and the two are one run.
    have hreaders : alone.readers = p.readers := Polling.readers_steps _ _
    obtain ⟨ready, hfinished⟩ := Polling.exists_finished_of_late (hscanned.steps _) (hreaders.symm ▸ hn)
    have hmoves : alone.steps (List.replicate n (.poll true)) =
        (p.polling b token).steps ((lates ++ List.replicate n true).map .poll) := by
      rw [List.map_append, List.map_replicate, Polling.steps_append]
    rw [hmoves] at hfinished ⊢
    rw [← hresult _ ready hfinished]
    exact hfinished

/-- Let a poll begin, whether or not a token is left over and a delivery under way, and let it and another party make
any moves: steps of the poll, at each of which it may be late, deliveries to readers in two steps, and takes. Where the
poll sleeps, no delivery is under way and messages wait at one of its readers, there is a token; and from any point
where they wait, a poll that is in time ends soon with something, without another move of the other party. A poll that
has ended gives the readers at which its last looks, one at each reader in the order of their registration, saw
messages, and there is one at least if the poll was never late. A poll by itself gives the subscribers that are ready,
in order: soon if there are any, and soon after it is late in any case. -/
theorem wakeup_of_moves (p : Poller) (b : Bus) (token : Bool) (delivering : Option Nat) (moves : List Move) :
    let start : Polling := { p.polling b token with delivering }
    let reached := start.steps moves
    let unread := ∃ r ∈ p.readers, reached.hasUnread r = true
    (reached.phase = .waiting → reached.delivering = none → unread → reached.token = true)
      ∧ (.poll true ∉ moves → reached.delivering = none → unread → ∀ n, 2 * p.readers.length + 4 ≤ n →
        ∃ ready, ready ≠ [] ∧ (reached.steps (List.replicate n (.poll false))).phase = .finished ready)
      ∧ (∀ ready, reached.phase = .finished ready →
        (∃ earlier scan, start.looks moves = earlier ++ scan ∧ scan.map Prod.fst = p.readers
          ∧ ready = (scan.filter Prod.snd).map Prod.fst)
        ∧ (.poll true ∉ moves → ready ≠ []))
      ∧ ∀ lates : List Bool, let alone := (p.polling b token).steps (lates.map .poll)
        (∀ ready, alone.phase = .finished ready → ready = (p.ready b).map Subscriber.reader)
        ∧ (p.ready b ≠ [] → p.readers.length + 3 ≤ lates.length →
          alone.phase = .finished ((p.ready b).map Subscriber.reader))
        ∧ ∀ n, p.readers.length + 3 ≤ n →
          (alone.steps (List.replicate n (.poll true))).phase = .finished ((p.ready b).map Subscriber.reader) := by
  intro start reached unread
  -- All invariants hold where a poll begins, whatever token or delivery it finds.
  have hdraining : start.phase = .draining := rfl
  have hsound : reached.Sound := (Polling.sound_of_draining hdraining).steps moves
  have hscanned : reached.Scanned ([] ++ start.looks moves) := (Polling.scanned_of_draining hdraining).steps moves
  have hprompt : .poll true ∉ moves → reached.Prompt := (Polling.prompt_of_draining hdraining).steps
  have hreaders : reached.readers = p.readers := start.readers_steps moves
  refine ⟨?_, ?_, ?_, polling_alone p b token⟩
  · intro hphase hdelivering hunread
    refine hsound.token (Polling.not_willSee_of_waiting hphase) ?_ (hreaders.symm ▸ hunread)
    intro d _ hsome
    rw [hdelivering] at hsome
    cases hsome
  · intro hmoves hdelivering hunread n hn
    exact Polling.exists_finished_of_unread hsound hscanned (hprompt hmoves) hdelivering (hreaders.symm ▸ hunread)
      (hreaders.symm ▸ hn)
  · intro ready hphase
    constructor
    · rw [Polling.Scanned, hphase, hreaders] at hscanned
      exact hscanned
    · intro hmoves
      have hend := hprompt hmoves
      rw [Polling.Prompt, hphase] at hend
      exact hend

/-- A reader that keeps the newest message only, and one that keeps all. -/
def quietBus : Bus where
  readers := [⟨0, .published "carState", true, [], 2⟩, ⟨1, .published "modelV2", false, [], 2⟩]
  serial := 2

/-- A poller of the two, the second reader first. -/
def pairPoller : Poller := ⟨[⟨1, "modelV2", none⟩, ⟨0, "carState", none⟩]⟩

/-- The poll takes the token of a message that is gone, and a message comes where it has just looked. -/
def unluckyMoves : List Move :=
  [.poll false, .poll false, .poll false, .enqueue 1 [7], .poll false, .poll false, .wake]

/-- The poll that has fallen asleep is woken and ends with something; one to which no message comes ends when it is
late. -/
theorem wakeup_of_unluckyMoves : let start : Polling := { pairPoller.polling quietBus true with delivering := none }
    let reached := start.steps unluckyMoves
    reached.phase = .waiting ∧ (∃ r ∈ pairPoller.readers, reached.hasUnread r = true) ∧ reached.token = true
      ∧ (∃ ready, ready ≠ [] ∧ (reached.steps (List.replicate 8 (.poll false))).phase = .finished ready)
      ∧ ((pairPoller.polling quietBus true).steps (List.replicate 5 (.poll true))).phase = .finished [] := by
  intro start reached
  have hphase : reached.phase = .waiting := by decide
  have hunread : ∃ r ∈ pairPoller.readers, reached.hasUnread r = true := by decide
  obtain ⟨htoken, hends, -, halone⟩ := wakeup_of_moves pairPoller quietBus true none unluckyMoves
  obtain ⟨-, -, hlate⟩ := halone []
  exact ⟨hphase, hunread, htoken hphase rfl hunread, hends (by decide) rfl hunread 8 (by decide), hlate 5 (by decide)⟩

end Poller

end TopicHealth
