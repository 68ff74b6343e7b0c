import TopicHealth.Node.Work
import TopicHealth.Proofs.Bus.Action

/-!
# Histories of nodes at work

Turns of the actors of a node come in any order, and between them others use the bus. An actor that is over stays so,
and the emitters are always those of the same feeds.

* `after`, `exists_history_of_run`: histories, of which a run to the end of the work is one.
* `feeds_after`, `shutdown_after`, `monitor_after`, `IsOver.after`: what stays as it is.
* `Round`: a history in which every actor is served that is not over.
* `isOver_of_round`: a round after the end of the monitor.
-/

namespace TopicHealth

/-- What is reached from an instant, or the instant itself, is no earlier. -/
theorem Duration.le_getD_later? [Clock] (now span : Duration) : now ≤ (now.later? span).getD now := by
  cases h : now.later? span with
  | none => exact Nat.le_refl _
  | some t =>
    have hsum := toNanos_add? (Option.filter_eq_some_iff.mp h).1
    rw [Option.getD_some, le_def, hsum]
    exact Nat.le_add_right _ _

namespace Emitter

variable {b : Bus} {shutdown : Bool} {now : Duration}

/-- An emitter that is not over has something to do some time. -/
theorem exists_due {e : Emitter} (h : ¬ e.isOver = true) : ∃ now t, e.due? now = some t ∧ t ≤ now := by
  rw [isOver, Bool.or_eq_true, decide_eq_true_iff, decide_eq_true_iff, not_or] at h
  cases hphase : e.phase with
  | idle => exact ⟨.zero, .zero, by rw [due?, hphase], Nat.le_refl _⟩
  | running => exact ⟨e.next, e.next, by rw [due?, hphase], Nat.le_refl _⟩
  | ended => exact absurd hphase h.1
  | broken => exact absurd hphase h.2

variable [Clock]

theorem feed_turn (e : Emitter) (b : Bus) (shutdown : Bool) (now : Duration) :
    (e.turn b shutdown now).2.2.feed = e.feed := by
  rw [turn]
  split_ifs
  · rfl
  · rfl
  · dsimp only
    rw [emit]
    cases e.next.later? e.period <;> rfl

/-- An emitter stays that of its feed. -/
theorem feed_step (e : Emitter) (b : Bus) (shutdown : Bool) (now : Duration) :
    (e.step b shutdown now).2.2.feed = e.feed := by
  rw [step]
  split
  · exact feed_turn _ b shutdown now
  · split_ifs
    · rfl
    · exact e.feed_turn b shutdown now
  · rfl
  · rfl

/-- An emitter sends a message at most. -/
theorem bus_turn (e : Emitter) (b : Bus) (shutdown : Bool) (now : Duration) :
    (e.turn b shutdown now).1 = b ∨ ∃ m, (e.turn b shutdown now).1 = b.send e.publisher m := by
  rw [turn]
  split_ifs
  · exact .inl rfl
  · exact .inl rfl
  · right
    dsimp only
    rw [emit]
    cases e.next.later? e.period <;> exact ⟨_, rfl⟩

/-- An emitter does nothing to the bus but send. -/
theorem bus_step (e : Emitter) (b : Bus) (shutdown : Bool) (now : Duration) :
    (e.step b shutdown now).1 = b ∨ ∃ m, (e.step b shutdown now).1 = b.send e.publisher m := by
  rw [step]
  split
  · exact bus_turn _ b shutdown now
  · split_ifs
    · exact .inl rfl
    · exact e.bus_turn b shutdown now
  · exact .inl rfl
  · exact .inl rfl

/-- An emitter that is over does nothing more. -/
theorem step_of_isOver {e : Emitter} (h : e.isOver = true) (b : Bus) (shutdown : Bool) (now : Duration) :
    (e.step b shutdown now).2.2 = e := by
  rw [isOver, Bool.or_eq_true, decide_eq_true_iff, decide_eq_true_iff] at h
  rcases h with h | h
  · rw [step, h]
  · rw [step, h]

/-- An emitter whose node has shut down ends when it is due. -/
theorem isOver_step_of_due {e : Emitter} {t : Duration} (hdue : e.due? now = some t) (hle : t ≤ now) (b : Bus) :
    (e.step b true now).2.2.isOver = true := by
  rw [due?] at hdue
  rw [step]
  cases hphase : e.phase with
  | idle => rfl
  | running =>
    rw [hphase] at hdue
    cases hdue
    have hlate : ¬ now < e.next := Nat.not_lt.mpr hle
    dsimp only
    rw [if_neg hlate]
    rfl
  | ended | broken =>
    rw [hphase] at hdue
    cases hdue

end Emitter

namespace Node.Work

/-! ## Histories -/

/-- What happens to a node at work: a turn of an actor, or something that others do to the bus. -/
inductive Move where
  | turn (actor : Actor)
  | act (action : Bus.Action)

/-- Moves one after another, each at its instant. -/
abbrev History := List (Move × Duration)

/-- The instants of a history do not go back. -/
def Ordered (history : History) : Prop := (history.map Prod.snd).Pairwise (· ≤ ·)

/-- The instant of the first turn of the monitor, with which it begins. -/
def began : History → Option Duration
  | [] => none
  | (.turn .monitor, now) :: _ => some now
  | _ :: history => began history

variable {w : Work} {history : History} {actor : Actor} {now : Duration} {reason : Breakdown}

theorem ordered_cons_iff {x : Move × Duration} :
    Ordered (x :: history) ↔ (∀ y ∈ history, x.2 ≤ y.2) ∧ Ordered history := by
  rw [Ordered, List.map_cons, List.pairwise_cons, List.forall_mem_map]
  rfl

theorem ordered_append_iff {first second : History} :
    Ordered (first ++ second) ↔
      Ordered first ∧ Ordered second ∧ ∀ x ∈ first, ∀ y ∈ second, x.2 ≤ y.2 := by
  rw [Ordered, List.map_append, List.pairwise_append, List.forall_mem_map]
  simp only [List.forall_mem_map]
  rfl

theorem began_cons (x : Move × Duration) (history : History) :
    began (x :: history) = (began [x]).or (began history) := by
  obtain ⟨m, now⟩ := x
  rcases m with actor | action
  · cases actor <;> rfl
  · rfl

theorem began_append (first second : History) : began (first ++ second) = (began first).or (began second) := by
  induction first with
  | nil => rfl
  | cons x first ih => rw [List.cons_append, began_cons, ih, ← Option.or_assoc, ← began_cons]

/-! ## Actors -/

/-- When an actor has something to do next. -/
def due? (w : Work) (now : Duration) : Actor → Option Duration
  | .monitor => w.monitor.due? w.bus now
  | .emitter index => w.emitters[index]?.bind fun e => e.due? now
  | .stopper => none

/-- An actor has something to do at an instant. -/
def IsDue (w : Work) (actor : Actor) (now : Duration) : Prop := ∃ t, w.due? now actor = some t ∧ t ≤ now

/-- An actor has nothing more to do, or is not there. -/
def IsOver (w : Work) : Actor → Prop
  | .monitor => w.monitor.isOver = true
  | .emitter index => ∀ e, w.emitters[index]? = some e → e.isOver = true
  | .stopper => True

/-- Every actor that is not over is due some time, if the monitor is. -/
theorem exists_isDue (hmonitor : w.monitor.isOver = false → ∃ now, w.IsDue .monitor now) {actor : Actor}
    (hover : ¬ w.IsOver actor) : ∃ now, w.IsDue actor now := by
  cases actor with
  | monitor => exact hmonitor (Bool.eq_false_iff.mpr hover)
  | stopper => exact absurd trivial hover
  | emitter index =>
    rw [IsOver, not_forall₂] at hover
    obtain ⟨e, he, hover⟩ := hover
    obtain ⟨now, t, hdue, hle⟩ := Emitter.exists_due hover
    refine ⟨now, t, ?_, hle⟩
    rw [due?, he]
    exact hdue

/-! ## Results -/

/-- The work is over when all its actors are. -/
theorem result?_of_isOver {report : Report} (hended : w.monitor = .ended report)
    (hover : ∀ index, w.IsOver (.emitter index)) : w.result? = some (.ok report) := by
  rw [result?, hended]
  dsimp only
  rw [if_pos]
  rw [List.all_eq_true]
  intro e he
  obtain ⟨index, hindex⟩ := List.getElem?_of_mem he
  exact hover index e hindex

/-- There is a report as soon as the monitor has ended with it and all emitters are over. -/
theorem of_result? {report : Report} (h : w.result? = some (.ok report)) :
    w.monitor = .ended report ∧ ∀ e ∈ w.emitters, e.isOver = true := by
  rw [result?] at h
  cases hphase : w.monitor with
  | idle | asleep | updating | broken =>
    rw [hphase] at h
    cases h
  | ended ended =>
    rw [hphase] at h
    dsimp only at h
    split_ifs at h with hall
    cases h
    exact ⟨rfl, List.all_eq_true.mp hall⟩

/-- The reason why a node breaks down is that of its monitor. -/
theorem of_result?_error (h : w.result? = some (.error reason)) : w.monitor = .broken reason := by
  rw [result?] at h
  cases hphase : w.monitor with
  | idle | asleep | updating =>
    rw [hphase] at h
    cases h
  | ended ended =>
    rw [hphase] at h
    dsimp only at h
    split_ifs at h
    cases h
  | broken fault =>
    rw [hphase] at h
    cases h
    rfl

/-! ## Moves -/

variable [Clock]

/-- The work after a move at an instant. -/
def move (w : Work) (now : Duration) : Move → Work
  | .turn actor => (w.step actor now).2
  | .act action => { w with bus := w.bus.act action }

/-- The work after a history. -/
def after (w : Work) (history : History) : Work := history.foldl (fun w x => w.move x.2 x.1) w

theorem after_cons (w : Work) (x : Move × Duration) (history : History) :
    w.after (x :: history) = (w.move x.2 x.1).after history := rfl

theorem after_append (w : Work) (first second : History) : w.after (first ++ second) = (w.after first).after second :=
  List.foldl_append

/-- A run to the end of the work is a history: of turns, at instants that do not go back. -/
theorem exists_history_of_run {latency : Duration} {fuel : Nat} {result : Except Breakdown Report}
    (h : (run latency fuel now w).2 = some result) :
    ∃ history, Ordered history ∧ (∀ x ∈ history, now ≤ x.2) ∧ (w.after history).result? = some result := by
  induction fuel generalizing w now with
  | zero => cases h
  | succ fuel ih =>
    have hdone : w.result? = some result → ∃ history, Ordered history ∧ (∀ x ∈ history, now ≤ x.2)
        ∧ (w.after history).result? = some result := fun hresult => ⟨[], List.Pairwise.nil, by simp, hresult⟩
    rw [run] at h
    cases hresult : w.result? with
    | some ended =>
      rw [hresult] at h
      apply hdone
      rcases ended with reason | report
      · rw [hresult, ← h]
      · rw [hresult, ← h]
    | none =>
      rw [hresult] at h
      cases hnext : w.next? now with
      | none =>
        rw [hnext] at h
        cases h
      | some turn =>
        obtain ⟨actor, due⟩ := turn
        rw [hnext] at h
        -- The turn is taken when it is due, or at once if it is overdue.
        have hnow : now ≤ if now < due then due else now := by
          split_ifs with hearly
          · exact Nat.le_of_lt hearly
          · exact Nat.le_refl _
        obtain ⟨history, hordered, hafter, hresult'⟩ := ih h
        have hinstants : ∀ x ∈ history, (if now < due then due else now) ≤ x.2 := fun x hx =>
          Nat.le_trans (Duration.le_getD_later? _ latency) (hafter x hx)
        refine ⟨(.turn actor, if now < due then due else now) :: history, ?_, ?_, hresult'⟩
        · exact ordered_cons_iff.mpr ⟨hinstants, hordered⟩
        · exact List.forall_mem_cons.mpr ⟨hnow, fun x hx => Nat.le_trans hnow (hinstants x hx)⟩

/-- Every actor that is not over has a turn when it is due. -/
def Round (w : Work) (history : History) : Prop :=
  ∀ actor, ¬ w.IsOver actor → ∃ earlier now later,
    history = earlier ++ (.turn actor, now) :: later ∧ (w.after earlier).IsDue actor now

/-- Some rounds one after another. -/
def Rounds (w : Work) : List History → Prop
  | [] => True
  | round :: rounds => w.Round round ∧ (w.after round).Rounds rounds

/-! ## What stays -/

/-- The emitters are those of the same feeds. -/
theorem feeds_after (w : Work) (history : History) :
    (w.after history).emitters.map Emitter.feed = w.emitters.map Emitter.feed := by
  induction history generalizing w with
  | nil => rfl
  | cons x history ih =>
    obtain ⟨move, now⟩ := x
    rw [after_cons, ih]
    rcases move with actor | action
    · cases actor with
      | monitor | stopper => rfl
      | emitter index =>
        simp only [move, step]
        cases he : w.emitters[index]? with
        | none => rfl
        | some e =>
          have hlt := (List.getElem?_eq_some_iff.mp he).1
          dsimp only
          rw [List.map_set, Emitter.feed_step]
          -- The feed takes its own place again.
          apply List.ext_getElem?
          intro i
          rw [List.getElem?_set, List.getElem?_map, List.length_map]
          split_ifs with hi
          · rw [← hi, he]
            rfl
          · rfl
    · rfl

theorem shutdown_move (hshutdown : w.shutdown = true) (now : Duration) (m : Move) :
    (w.move now m).shutdown = true := by
  rcases m with actor | action
  · cases actor with
    | monitor =>
      simp only [move, step]
      rw [hshutdown, Bool.true_or]
    | stopper => rfl
    | emitter index =>
      simp only [move, step]
      cases w.emitters[index]? <;> exact hshutdown
  · exact hshutdown

/-- Nobody takes it back that a node is shut down. -/
theorem shutdown_after (hshutdown : w.shutdown = true) (history : History) : (w.after history).shutdown = true := by
  induction history generalizing w with
  | nil => exact hshutdown
  | cons x history ih => exact ih (shutdown_move hshutdown x.2 x.1)

/-- A monitor that has ended has shut the node down. -/
theorem shutdown_move_of_ended (h : ∀ report, w.monitor = .ended report → w.shutdown = true) (now : Duration)
    (m : Move) : ∀ report, (w.move now m).monitor = .ended report → (w.move now m).shutdown = true := by
  intro report hended
  rcases m with actor | action
  · cases actor with
    | monitor =>
      simp only [move, step] at hended ⊢
      rw [hended, Bool.or_true]
    | stopper => rfl
    | emitter index =>
      simp only [move, step] at hended ⊢
      cases he : w.emitters[index]? with
      | none =>
        rw [he] at hended
        exact h report hended
      | some e =>
        rw [he] at hended
        exact h report hended
  · exact h report hended

/-- The end of the monitor shuts the node down. -/
theorem shutdown_of_ended (h : ∀ report, w.monitor = .ended report → w.shutdown = true) (history : History) :
    ∀ report, (w.after history).monitor = .ended report → (w.after history).shutdown = true := by
  induction history generalizing w with
  | nil => exact h
  | cons x history ih => exact ih (shutdown_move_of_ended h x.2 x.1)

/-- A monitor that is over does nothing more. -/
theorem monitor_move (hover : w.monitor.isOver = true) (now : Duration) (m : Move) :
    (w.move now m).monitor = w.monitor := by
  rcases m with actor | action
  · cases actor with
    | monitor =>
      simp only [move, step]
      cases hphase : w.monitor with
      | idle | asleep | updating =>
        rw [hphase] at hover
        cases hover
      | ended | broken => rfl
    | stopper => rfl
    | emitter index =>
      simp only [move, step]
      cases w.emitters[index]? <;> rfl
  · rfl

/-- A monitor that is over stays as it is. -/
theorem monitor_after (hover : w.monitor.isOver = true) (history : History) :
    (w.after history).monitor = w.monitor := by
  induction history generalizing w with
  | nil => rfl
  | cons x history ih =>
    have hsame := monitor_move hover x.2 x.1
    rw [after_cons, ih (hsame ▸ hover), hsame]

theorem IsOver.move (h : w.IsOver actor) (now : Duration) (m : Move) : (w.move now m).IsOver actor := by
  cases actor with
  | monitor =>
    rw [IsOver, monitor_move h now m]
    exact h
  | stopper => trivial
  | emitter index =>
    rcases m with actor | action
    · cases actor with
      | monitor | stopper => exact h
      | emitter other =>
        -- The turn is that of another emitter, or does nothing because this one is over.
        intro e' he'
        simp only [Work.move, step] at he'
        cases he : w.emitters[other]? with
        | none =>
          rw [he] at he'
          exact h e' he'
        | some e =>
          rw [he] at he'
          dsimp only at he'
          rw [List.getElem?_set] at he'
          split_ifs at he' with hindex hlt
          · subst hindex
            cases he'
            have hover := h e he
            rw [Emitter.step_of_isOver hover]
            exact hover
          · exact h e' he'
    · exact h

/-- Who is over stays over. -/
theorem IsOver.after (h : w.IsOver actor) (history : History) : (w.after history).IsOver actor := by
  induction history generalizing w with
  | nil => exact h
  | cons x history ih => exact ih (h.move x.2 x.1)

/-! ## Shutting down -/

/-- An emitter ends with its turn when its node has shut down. -/
theorem isOver_of_due {index : Nat} (hshutdown : w.shutdown = true) (hdue : w.IsDue (.emitter index) now) :
    (w.move now (.turn (.emitter index))).IsOver (.emitter index) := by
  obtain ⟨t, ht, hle⟩ := hdue
  obtain ⟨e, he, hdue⟩ := Option.bind_eq_some_iff.mp ht
  intro e' he'
  simp only [move, step, he] at he'
  rw [List.getElem?_set_self (List.getElem?_eq_some_iff.mp he).1] at he'
  cases he'
  rw [hshutdown]
  exact Emitter.isOver_step_of_due hdue hle w.bus

/-- A round after the node has shut down ends all the emitters. -/
theorem isOver_of_round (hshutdown : w.shutdown = true) (hround : w.Round history) (index : Nat) :
    (w.after history).IsOver (.emitter index) := by
  by_cases hover : w.IsOver (.emitter index)
  · exact hover.after history
  · obtain ⟨earlier, now, later, rfl, hdue⟩ := hround _ hover
    rw [after_append, after_cons]
    -- The node is still shut down when the emitter has its turn, and the emitter stays over then.
    exact (isOver_of_due (shutdown_after hshutdown earlier) hdue).after later

/-! ## Breaking down -/

/-- Nobody but someone outside shuts a node down whose monitor has broken down. -/
theorem shutdown_after_of_broken (hbroken : w.monitor = .broken reason) (history : History) :
    (w.after history).shutdown = true ↔ w.shutdown = true ∨ ∃ now, (.turn .stopper, now) ∈ history := by
  induction history generalizing w with
  | nil => simp [after]
  | cons x history ih =>
    obtain ⟨m, now⟩ := x
    have hover : w.monitor.isOver = true := by
      rw [hbroken]
      rfl
    have hsame : (w.move now m).monitor = .broken reason := (monitor_move hover now m).trans hbroken
    rw [after_cons, ih hsame]
    -- What is left to see is which first moves shut the node down: those of the stopper only.
    rcases m with actor | action
    · cases actor with
      | monitor => simp [move, step, hbroken, Monitor.Phase.step]
      | stopper =>
        refine iff_of_true (.inl rfl) (.inr ⟨now, List.mem_cons_self⟩)
      | emitter index =>
        have hshutdown : (w.move now (.turn (.emitter index))).shutdown = w.shutdown := by
          simp only [move, step]
          cases w.emitters[index]? <;> rfl
        rw [hshutdown]
        simp
    · simp [move]

end Node.Work

end TopicHealth
