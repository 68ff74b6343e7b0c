import TopicHealth.Proofs.Node.Config
import TopicHealth.Proofs.Node.Monitor
import TopicHealth.Proofs.Node.Open
import TopicHealth.Proofs.Node.Work

/-!
# How nodes end

A node that works on its configuration ends with a report, once it is told to end and everyone has had their turns. It
breaks down only at a turn of its monitor, and only if the next report or the next tick would be beyond the end of the
clock. Nothing that a configuration has to be rules that out, and then no one is told to end.

* `Timed.move`, `Timed.after`: what one move and a whole history preserve.
* `Timed.round`, `Timed.ends`: rounds that a node takes to end.
* `overflows_of_error`, `exists_report_of_rounds`, `exists_isDue_of_ungated`: nodes that were opened.
* `overflows_of_run`: nodes whose turns are taken as they fall due.
* `result_of_history`: how a node ends that was opened.
-/

namespace TopicHealth.Node

variable {T : Terms} {c : Config} {a : Aggregator} {start? : Option Duration} {before now last : Duration} {k : Nat}

/-! ## Beginning -/

variable {b b' : Bus} {notices : List Notice} {n : Node}

/-- A node that was opened has the configuration, which is valid. -/
theorem config_of_open (h : Node.open b c = ⟨b', notices, .ok n⟩) : n.config = c ∧ c.validate = .ok () := by
  unfold Node.open at h
  split at h
  · cases h
  · rename_i hvalid
    split at h
    · cases h
    · split at h
      · cases h
      · cases h
        exact ⟨rfl, hvalid⟩

/-- There is an emitter for every feed. -/
theorem feeds_begin (h : Node.open b c = ⟨b', notices, .ok n⟩) (shutdown : Bool) :
    (n.begin b' shutdown).emitters.map Emitter.feed = c.feeds := by
  obtain ⟨hconfig, hvalid⟩ := config_of_open h
  obtain ⟨b₁, notices₁, notices₂, -, hset⟩ := exists_open_of_open h
  obtain ⟨-, -, -, hruns, -⟩ := (Config.validate_eq_ok_iff c).mp hvalid
  -- A valid configuration has a period for every feed, and what was opened has a publisher for it.
  have hemitter : ∀ f ∈ c.feeds, (emitter? n.publishers f).map Emitter.feed = some f := by
    intro f hf
    obtain ⟨period, hperiod⟩ := Config.exists_period_iff.mpr (hruns f hf).hasPeriod
    obtain ⟨p, hp⟩ := PublisherSet.exists_publisher_of_open hset (List.mem_map_of_mem hf)
    rw [emitter?, hperiod, hp]
    rfl
  rw [begin, hconfig, List.map_filterMap, List.filterMap_congr hemitter, List.filterMap_some]

/-- What opening says of the aggregator: its services are tracked once each, and no tick has been made. -/
theorem aggregator_of_open (h : Node.open b c = ⟨b', notices, .ok n⟩) : c.tracker.services.Nodup
    ∧ ∀ now, Aggregator.Timed c.tracker n.aggregator now n.aggregator := by
  obtain ⟨-, hvalid⟩ := config_of_open h
  obtain ⟨b₁, notices₁, -, haggregator, -⟩ := exists_open_of_open h
  obtain ⟨htracker, -⟩ := (Config.validate_eq_ok_iff c).mp hvalid
  exact ⟨((Tracker.Config.validate_eq_ok_iff c.tracker).mp htracker).2.2, Aggregator.timed_of_open haggregator⟩

namespace Work

variable {w : Work} {history : History}

/-! ## On a clock -/

/-- The instant of the last move. -/
def ending (before : Duration) (history : History) : Duration := history.foldl (fun _ x => x.2) before

/-- A history ends no later than its last instant. -/
theorem ending_le (hbefore : before ≤ now) (h : ∀ x ∈ history, x.2 ≤ now) : ending before history ≤ now := by
  induction history generalizing before with
  | nil => exact hbefore
  | cons x history ih =>
    obtain ⟨hx, hrest⟩ := List.forall_mem_cons.mp h
    exact ih hx hrest

theorem ending_append (before : Duration) (first second : History) :
    ending before (first ++ second) = ending (ending before first) second :=
  List.foldl_append

section Clock

variable [Clock]

/-- What the history asks of the terms on which the aggregator updates. -/
structure Suits (T : Terms) (c : Config) (history : History) : Prop where
  wait : ∀ now, (.turn .monitor, now) ∈ history → ∀ readers, T.wait (.unread readers (now.later? c.updateTimeout))
  act : ∀ action now, (.act action, now) ∈ history → ∀ b, T.bus b → T.bus (b.act action)

/-- A history goes on from an instant, on the terms of the updates. -/
structure GoesOn (T : Terms) (c : Config) (before : Duration) (history : History) : Prop where
  ordered : Ordered history
  before : ∀ x ∈ history, before ≤ x.2
  suits : Suits T c history

theorem Suits.of_subset {other : History} (h : Suits T c history) (hsubset : ∀ x ∈ other, x ∈ history) :
    Suits T c other :=
  ⟨fun now hx => h.wait now (hsubset _ hx), fun action now hx => h.act action now (hsubset _ hx)⟩

theorem suits_any (c : Config) (history : History) : Suits .any c history :=
  ⟨fun _ _ _ => trivial, fun _ _ _ _ _ => trivial⟩

/-- A history goes on from the instant of its first move. -/
theorem GoesOn.cons {x : Move × Duration} (h : GoesOn T c before (x :: history)) :
    before ≤ x.2 ∧ Suits T c [x] ∧ GoesOn T c x.2 history := by
  obtain ⟨hx, hordered⟩ := ordered_cons_iff.mp h.ordered
  refine ⟨h.before x List.mem_cons_self, h.suits.of_subset ?_, hordered, hx, h.suits.of_subset ?_⟩
  · intro y hy
    rw [List.mem_singleton.mp hy]
    exact List.mem_cons_self
  · intro y hy
    exact List.mem_cons_of_mem x hy

/-- It goes on at any place from the instant that it has come to. -/
theorem GoesOn.append {first second : History} (h : GoesOn T c before (first ++ second)) :
    GoesOn T c before first ∧ GoesOn T c (ending before first) second := by
  obtain ⟨hfirst, hsecond, hacross⟩ := ordered_append_iff.mp h.ordered
  have hinl : ∀ x ∈ first, x ∈ first ++ second := fun x hx => List.mem_append_left second hx
  have hinr : ∀ x ∈ second, x ∈ first ++ second := fun x hx => List.mem_append_right first hx
  refine ⟨⟨hfirst, fun x hx => h.before x (hinl x hx), h.suits.of_subset hinl⟩,
    hsecond, ?_, h.suits.of_subset hinr⟩
  intro y hy
  exact ending_le (h.before y (hinr y hy)) fun x hx => hacross x hx y hy

/-- Where a node at work has got to by an instant, when its monitor began and how many turns it has left at most once
it is told to end. -/
structure Timed (T : Terms) (c : Config) (a : Aggregator) (start? : Option Duration) (now : Duration) (k : Nat)
    (w : Work) : Prop where
  config : w.config = c
  bus : T.bus w.bus
  monitor : w.monitor.Timed T c a start? now k

/-- The monitor has broken down at an instant that is too near to the end of the clock. -/
def Overflows (c : Config) (history : History) (w : Work) : Prop :=
  w.monitor = .broken .clockOverflow ∧ ∃ now, (.turn .monitor, now) ∈ history ∧ ¬ c.InRange now

/-- What one move preserves. -/
theorem Timed.move (hnodup : c.tracker.services.Nodup) (ha : Aggregator.Timed c.tracker a now a)
    (h : w.Timed T c a start? before k) (hle : before ≤ now) {m : Move} (hsuits : Suits T c [(m, now)]) :
    (∃ k', k' ≤ max k (a.waits + 1)
        ∧ (Monitor.Told c start? w.shutdown now →
          k' ≤ k ∧ (m = .turn .monitor → w.IsDue .monitor now → k' < k))
        ∧ (w.move now m).Timed T c a (start?.or (began [(m, now)])) now k')
      ∨ (w.move now m).Overflows c [(m, now)] := by
  obtain ⟨rfl, hbus, hmonitor⟩ := h
  -- Where it is not the turn of the monitor, the monitor stays where it is.
  have hidle : ∀ {w' : Work}, w'.config = w.config → T.bus w'.bus → w'.monitor = w.monitor →
      w'.Timed T w.config a (start?.or none) now k := by
    intro w' hconfig hbus' hsame
    rw [Option.or_none]
    exact ⟨hconfig, hbus', hsame ▸ hmonitor.mono hle (Nat.le_refl k)⟩
  have hother : ∀ {P : Prop}, m ≠ .turn .monitor → (Monitor.Told w.config start? w.shutdown now →
      k ≤ k ∧ (m = .turn .monitor → P → k < k)) :=
    fun hne _ => ⟨Nat.le_refl k, fun heq => absurd heq hne⟩
  rcases m with actor | action
  · cases actor with
    | monitor =>
      have hwait := hsuits.wait now List.mem_cons_self
      obtain ⟨hbus', k', hk', htold, hfollows⟩ := hmonitor.step w.shutdown hnodup ha hle hbus hwait
      rcases hfollows with htimed | ⟨hbroken, hrange⟩
      · refine .inl ⟨k', hk', ?_, ⟨rfl, hbus', htimed⟩⟩
        intro htoldNow
        obtain ⟨hle', hlt⟩ := htold htoldNow
        exact ⟨hle', fun _ hdue => hlt hdue⟩
      · exact .inr ⟨hbroken, now, List.mem_cons_self, hrange⟩
    | stopper => exact .inl ⟨k, Nat.le_max_left _ _, hother (by simp), hidle rfl hbus rfl⟩
    | emitter index =>
      refine .inl ⟨k, Nat.le_max_left _ _, hother (by simp), ?_⟩
      rw [Work.move, Work.step]
      dsimp only
      cases he : w.emitters[index]? with
      | none => exact hidle rfl hbus rfl
      | some e =>
        have hsent : T.bus (e.step w.bus w.shutdown now).1 := by
          rcases e.bus_step w.bus w.shutdown now with hsame | ⟨message, hsent⟩
          · rw [hsame]
            exact hbus
          · rw [hsent]
            exact T.send w.bus e.publisher message hbus
        exact hidle rfl hsent rfl
  · exact .inl ⟨k, Nat.le_max_left _ _, hother (by simp),
      hidle rfl (hsuits.act action now List.mem_cons_self w.bus hbus) rfl⟩

/-- What a whole history preserves. -/
theorem Timed.after (hnodup : c.tracker.services.Nodup) (ha : ∀ now, Aggregator.Timed c.tracker a now a)
    (h : w.Timed T c a start? before k) (hgoes : GoesOn T c before history) :
    (∃ k', k' ≤ max k (a.waits + 1)
        ∧ ((∀ x ∈ history, Monitor.Told c start? w.shutdown x.2) → k' ≤ k)
        ∧ (w.after history).Timed T c a (start?.or (began history)) (ending before history) k')
      ∨ (w.after history).Overflows c history := by
  -- The induction goes from the first move on; a bound that an update has raised is raised no further by the next.
  induction history generalizing w start? before k with
  | nil =>
    refine .inl ⟨k, Nat.le_max_left _ _, fun _ => Nat.le_refl k, ?_⟩
    rw [began, Option.or_none]
    exact h
  | cons x history ih =>
    obtain ⟨m, now⟩ := x
    obtain ⟨hle, hsuits, hrest⟩ := hgoes.cons
    rcases h.move hnodup (ha now) hle hsuits with ⟨k₁, hk₁, htold₁, h₁⟩ | ⟨hbroken, t, ht, hrange⟩
    · rcases ih h₁ hrest with ⟨k₂, hk₂, htold₂, h₂⟩ | ⟨hbroken, t, ht, hrange⟩
      · refine .inl ⟨k₂, ?_, ?_, ?_⟩
        · omega
        · -- Who was told to end before the move has been told to end after it.
          intro htold
          obtain ⟨htoldNow, htoldLater⟩ := List.forall_mem_cons.mp htold
          refine Nat.le_trans (htold₂ fun y hy => ?_) (htold₁ htoldNow).1
          refine (htoldLater y hy).mono ?_ ?_ (Nat.le_refl _)
          · rintro start rfl
            rfl
          · intro hshutdown
            exact shutdown_move hshutdown now m
        · rw [began_cons, ← Option.or_assoc]
          exact h₂
      · exact .inr ⟨hbroken, t, List.mem_cons_of_mem _ ht, hrange⟩
    · -- A monitor that has broken down stays so.
      have hover : (w.move now m).monitor.isOver = true := by
        rw [hbroken]
        rfl
      refine .inr ⟨(monitor_after hover history).trans hbroken, t, ?_, hrange⟩
      rw [List.mem_singleton.mp ht]
      exact List.mem_cons_self

/-! ## Rounds -/

section Rounds

variable (hnodup : c.tracker.services.Nodup) (ha : ∀ now, Aggregator.Timed c.tracker a now a)

include hnodup ha

/-- Told to end, a monitor that does not break down has no more turns left than before. -/
theorem Timed.after_told (h : w.Timed T c a start? before k) (hgoes : GoesOn T c before history)
    (hrange : ∀ now, (.turn .monitor, now) ∈ history → c.InRange now)
    (htold : ∀ x ∈ history, Monitor.Told c start? w.shutdown x.2) :
    ∃ k' ≤ k, (w.after history).Timed T c a (start?.or (began history)) (ending before history) k' := by
  rcases h.after hnodup ha hgoes with ⟨k', -, hle, h'⟩ | ⟨-, now, hnow, hout⟩
  · exact ⟨k', hle htold, h'⟩
  · exact absurd (hrange now hnow) hout

/-- Told to end, a monitor has a turn less left after each round. -/
theorem Timed.round (h : w.Timed T c a start? before k) (hgoes : GoesOn T c before history)
    (hrange : ∀ now, (.turn .monitor, now) ∈ history → c.InRange now)
    (htold : ∀ x ∈ history, Monitor.Told c start? w.shutdown x.2) (hround : w.Round history) :
    ∃ k' ≤ k - 1, (w.after history).Timed T c a (start?.or (began history)) (ending before history) k' := by
  by_cases hover : w.IsOver .monitor
  · have hdone : w.Timed T c a start? before 0 := ⟨h.config, h.bus, h.monitor.of_isOver hover⟩
    obtain ⟨k', hk', h'⟩ := hdone.after_told hnodup ha hgoes hrange htold
    exact ⟨k', Nat.le_trans hk' (Nat.zero_le _), h'⟩
  · -- The history is split at the turn that is due.
    obtain ⟨earlier, now, later, rfl, hdue⟩ := hround .monitor hover
    obtain ⟨hgoes₁, hgoes₂⟩ := hgoes.append
    obtain ⟨hle, hsuits, hgoes₃⟩ := hgoes₂.cons
    obtain ⟨htold₁, htold₂⟩ := List.forall_mem_append.mp htold
    obtain ⟨htoldNow, htold₃⟩ := List.forall_mem_cons.mp htold₂
    have hrange₁ : ∀ t, (.turn .monitor, t) ∈ earlier → c.InRange t := fun t ht => hrange t (List.mem_append_left _ ht)
    have hrange₃ : ∀ t, (.turn .monitor, t) ∈ later → c.InRange t :=
      fun t ht => hrange t (List.mem_append_right _ (List.mem_cons_of_mem _ ht))
    obtain ⟨k₁, hk₁, h₁⟩ := h.after_told hnodup ha hgoes₁ hrange₁ htold₁
    have hkeeps : ∀ {first : Option Duration} start, start? = some start → start?.or first = some start := by
      rintro first start rfl
      rfl
    -- What the monitor was told before the turn it has been told after it: the first turn and the shutdown stay.
    have hdown : w.shutdown = true → (w.after earlier).shutdown = true := fun h => shutdown_after h earlier
    rcases h₁.move hnodup (ha now) hle hsuits with ⟨k₂, -, hlt, h₂⟩ | ⟨-, t, ht, hout⟩
    · have hk₂ := (hlt (htoldNow.mono hkeeps hdown (Nat.le_refl _))).2 rfl hdue
      have htold₄ : ∀ x ∈ later, Monitor.Told c ((start?.or (began earlier)).or (began [(.turn .monitor, now)]))
          ((w.after earlier).move now (.turn .monitor)).shutdown x.2 := by
        intro x hx
        rw [Option.or_assoc]
        exact (htold₃ x hx).mono hkeeps (fun h => shutdown_move (hdown h) _ _) (Nat.le_refl _)
      obtain ⟨k₃, hk₃, h₃⟩ := h₂.after_told hnodup ha hgoes₃ hrange₃ htold₄
      refine ⟨k₃, by omega, ?_⟩
      rw [after_append, after_cons, ending_append, began_append, began_cons, ← Option.or_assoc, ← Option.or_assoc]
      exact h₃
    · cases List.mem_singleton.mp ht
      exact absurd (hrange _ (List.mem_append_right _ List.mem_cons_self)) hout

/-- Told to end, a node has ended after more rounds than its monitor has turns left: the emitters end in the last. -/
theorem Timed.ends {rounds : List History} (h : w.Timed T c a start? before k)
    (hended : ∀ report, w.monitor = .ended report → w.shutdown = true) (hgoes : GoesOn T c before rounds.flatten)
    (hrange : ∀ now, (.turn .monitor, now) ∈ rounds.flatten → c.InRange now)
    (htold : ∀ x ∈ rounds.flatten, Monitor.Told c start? w.shutdown x.2) (hrounds : w.Rounds rounds)
    (hlt : k < rounds.length) : ∃ report, (w.after rounds.flatten).result? = some (.ok report) := by
  -- Each round leaves the monitor a turn less. The round that finds it ended is the last that the emitters need.
  induction rounds generalizing w start? before k with
  | nil => exact absurd hlt (Nat.not_lt_zero k)
  | cons round rounds ih =>
    obtain ⟨hround, hlater⟩ := hrounds
    rw [List.flatten_cons] at hgoes hrange htold ⊢
    rw [after_append]
    obtain ⟨hgoes₁, hgoes₂⟩ := hgoes.append
    obtain ⟨htold₁, htold₂⟩ := List.forall_mem_append.mp htold
    cases k with
    | zero =>
      obtain ⟨report, hreport⟩ := h.monitor.exists_ended
      have hover : w.monitor.isOver = true := by
        rw [hreport]
        rfl
      have hdone := isOver_of_round (hended report hreport) hround
      refine ⟨report, result?_of_isOver ?_ fun index => (hdone index).after rounds.flatten⟩
      rw [← after_append, monitor_after hover, hreport]
    | succ k =>
      have hrange₁ : ∀ t, (.turn .monitor, t) ∈ round → c.InRange t := fun t ht => hrange t (List.mem_append_left _ ht)
      obtain ⟨k', hk', h'⟩ := h.round hnodup ha hgoes₁ hrange₁ htold₁ hround
      rw [List.length_cons] at hlt
      refine ih h' (shutdown_of_ended hended round) hgoes₂ (fun t ht => hrange t (List.mem_append_right _ ht)) ?_ hlater
        (by omega)
      intro x hx
      refine (htold₂ x hx).mono ?_ (fun hdown => shutdown_after hdown round) (Nat.le_refl _)
      rintro start rfl
      rfl

end Rounds

/-! ## Breaking down -/

/-- A monitor breaks down with its first turn if its first report would be beyond the end of the clock, and tells
nobody. -/
theorem broken_of_began (hidle : w.monitor = .idle a) {start : Duration} (hbegan : began history = some start)
    (hover : start.later? w.config.reportInterval = none) :
    (w.after history).monitor = .broken .clockOverflow
      ∧ ((w.after history).shutdown = true ↔ w.shutdown = true ∨ ∃ now, (.turn .stopper, now) ∈ history) := by
  -- The turns of others and what is done to the bus leave the monitor idle, until its own first turn.
  induction history generalizing w with
  | nil => cases hbegan
  | cons x history ih =>
    obtain ⟨m, now⟩ := x
    rw [after_cons]
    rcases m with actor | action
    · cases actor with
      | monitor =>
        cases hbegan
        have hbroken : (w.move start (.turn .monitor)).monitor = .broken .clockOverflow := by
          rw [Work.move, Work.step, hidle, Monitor.Phase.step, hover]
        have hshutdown : (w.move start (.turn .monitor)).shutdown = w.shutdown := by
          rw [Work.move, Work.step, hidle, Monitor.Phase.step, hover]
          exact Bool.or_false _
        have hdown : (w.move start (.turn .monitor)).monitor.isOver = true := by
          rw [hbroken]
          rfl
        rw [shutdown_after_of_broken hbroken, hshutdown]
        exact ⟨(monitor_after hdown history).trans hbroken, by simp⟩
      | stopper =>
        obtain ⟨hbroken, hshutdown⟩ := ih (w := w.move now (.turn .stopper)) hidle hbegan hover
        exact ⟨hbroken, iff_of_true (hshutdown.mpr (.inl rfl)) (.inr ⟨now, List.mem_cons_self⟩)⟩
      | emitter index =>
        have hsame : (w.move now (.turn (.emitter index))).monitor = w.monitor
            ∧ (w.move now (.turn (.emitter index))).config = w.config
            ∧ (w.move now (.turn (.emitter index))).shutdown = w.shutdown := by
          simp only [Work.move, Work.step]
          cases w.emitters[index]? <;> exact ⟨rfl, rfl, rfl⟩
        obtain ⟨hmonitor, hconfig, hdown⟩ := hsame
        obtain ⟨hbroken, hshutdown⟩ := ih (hmonitor.trans hidle) hbegan (hconfig.symm ▸ hover)
        rw [hdown] at hshutdown
        exact ⟨hbroken, hshutdown.trans (by simp)⟩
    · obtain ⟨hbroken, hshutdown⟩ := ih (w := w.move now (.act action)) hidle hbegan hover
      exact ⟨hbroken, hshutdown.trans (by simp [Work.move])⟩

/-! ## Nodes that were opened -/

/-- A node that was about to work has shut down when its monitor has ended. -/
theorem shutdown_of_begin {shutdown : Bool} {report : Report}
    (hended : ((n.begin b shutdown).after history).monitor = .ended report) :
    ((n.begin b shutdown).after history).shutdown = true := by
  refine shutdown_of_ended ?_ history report hended
  intro report h
  cases h

section Opened

variable (hopen : Node.open b c = ⟨b', notices, .ok n⟩)

include hopen

/-- A history from the beginning: the monitor has at most the turns left that an update can take, and one to end. -/
theorem timed_of_open (shutdown : Bool) (hbus : T.bus b') (hordered : Ordered history) (hsuits : Suits T c history) :
    (∃ k ≤ n.aggregator.waits + 1, ((n.begin b' shutdown).after history).Timed T c n.aggregator (began history)
        (ending .zero history) k)
      ∨ ((n.begin b' shutdown).after history).Overflows c history := by
  obtain ⟨rfl, -⟩ := config_of_open hopen
  obtain ⟨hnodup, ha⟩ := aggregator_of_open hopen
  have hbegin : (n.begin b' shutdown).Timed T n.config n.aggregator none .zero 1 := ⟨rfl, hbus, .idle Nat.one_pos⟩
  have hgoes : GoesOn T n.config .zero history := ⟨hordered, fun _ _ => Nat.zero_le _, hsuits⟩
  rcases hbegin.after hnodup ha hgoes with ⟨k, hk, -, h⟩ | hbroken
  · rw [Nat.max_eq_right (Nat.le_add_left 1 _)] at hk
    exact .inl ⟨k, hk, h⟩
  · exact .inr hbroken

/-- A node breaks down only where its monitor does, near the end of the clock. -/
theorem overflows_of_error (shutdown : Bool) (hordered : Ordered history) {reason : Breakdown}
    (hresult : ((n.begin b' shutdown).after history).result? = some (.error reason)) :
    reason = .clockOverflow ∧ ∃ now, (.turn .monitor, now) ∈ history ∧ ¬ c.InRange now := by
  have hbroken := of_result?_error hresult
  rcases timed_of_open (T := .any) hopen shutdown trivial hordered (suits_any c history) with
    ⟨k, -, h⟩ | ⟨hoverflow, hout⟩
  · exact absurd hbroken h.monitor.ne_broken
  · rw [hbroken] at hoverflow
    cases hoverflow
    exact ⟨rfl, hout⟩

/-- The run of a program that takes turns as they fall due breaks down only there, too. -/
theorem overflows_of_run {latency start : Duration} {fuel : Nat} {shutdown : Bool} {reason : Breakdown}
    (hrun : (run latency fuel start (n.begin b' shutdown)).2 = some (.error reason)) :
    reason = .clockOverflow ∧ ∃ now, start ≤ now ∧ ¬ c.InRange now := by
  -- The run of the program is one of the histories, with turns from its start on.
  obtain ⟨history, hordered, hafter, hresult⟩ := exists_history_of_run hrun
  obtain ⟨hreason, now, hnow, hout⟩ := overflows_of_error hopen shutdown hordered hresult
  have hlate : start ≤ now := hafter (.turn .monitor, now) hnow
  exact ⟨hreason, now, hlate, hout⟩

/-- Told to end, a node that does not break down ends with a report after so many rounds. -/
theorem exists_report_of_rounds (shutdown : Bool) {rounds : List History}
    (hrounds : ((n.begin b' shutdown).after history).Rounds rounds)
    (hlength : n.aggregator.waits + 1 < rounds.length) (hordered : Ordered (history ++ rounds.flatten))
    (hrange : ∀ now, (.turn .monitor, now) ∈ history ++ rounds.flatten → c.InRange now)
    (htold : ∀ x ∈ rounds.flatten,
      Monitor.Told c (began history) ((n.begin b' shutdown).after history).shutdown x.2) :
    ∃ report, (((n.begin b' shutdown).after history).after rounds.flatten).result? = some (.ok report) := by
  obtain ⟨hnodup, ha⟩ := aggregator_of_open hopen
  have hgoes : GoesOn .any c .zero (history ++ rounds.flatten) :=
    ⟨hordered, fun _ _ => Nat.zero_le _, suits_any c _⟩
  obtain ⟨hgoes₁, hgoes₂⟩ := hgoes.append
  -- The history up to here leaves the monitor so many turns at most; each round takes one more.
  rcases timed_of_open (T := .any) hopen shutdown trivial hgoes₁.ordered (suits_any c history) with
    ⟨k, hk, h⟩ | ⟨-, now, hnow, hout⟩
  · refine h.ends hnodup ha (fun report => shutdown_of_begin) hgoes₂ ?_ htold hrounds
      (Nat.lt_of_le_of_lt hk hlength)
    intro now hnow
    exact hrange now (List.mem_append_right history hnow)
  · exact absurd (hrange now (List.mem_append_left _ hnow)) hout

/-- Everyone who is not over is due some time, where no wait is without end. -/
theorem exists_isDue_of_ungated (shutdown : Bool) (hordered : Ordered history) (hgates : b'.gates.active = false)
    (hungated : ∀ action now, (.act action, now) ∈ history → action.Ungated)
    (htimeout : ∀ now, (.turn .monitor, now) ∈ history → now.later? c.updateTimeout ≠ none) {actor : Actor}
    (hover : ¬ ((n.begin b' shutdown).after history).IsOver actor) :
    ∃ now, ((n.begin b' shutdown).after history).IsDue actor now := by
  have hsuits : Suits .ungated c history :=
    ⟨fun now hnow _ => htimeout now hnow, fun action now hx b hb => Terms.ungated_act hb (hungated action now hx)⟩
  refine exists_isDue ?_ hover
  intro hrunning
  rcases timed_of_open hopen shutdown hgates hordered hsuits with ⟨k, -, h⟩ | ⟨hoverflow, -⟩
  · exact h.monitor.exists_due hrunning _
  · -- A monitor that has broken down is over.
    rw [hoverflow] at hrunning
    cases hrunning

end Opened

/-! ## Ends -/

/-- How a node ends that was opened, whatever turns its monitor and its emitters have had, in which order and when, and
whatever others have done to the bus.

* Every feed has an emitter. When the node has ended with a report, it has shut down, and all the emitters are over.
* It breaks down only at a turn of its monitor from which the next report or the next tick would be beyond the end of
the clock.
* It does break down, and shuts nobody down, if that is so for its first report.
* Otherwise, once it is shut down or its time is over, it has ended with a report after so many rounds.
* Everyone is due some time who is not over, so that rounds come about, unless a gate holds an update up or its wait
for messages ends beyond the clock. -/
theorem result_of_history (b b' : Bus) (c : Config) (notices : List Notice) (n : Node) (shutdown : Bool)
    (history : History) (hopen : Node.open b c = ⟨b', notices, .ok n⟩) (hordered : Ordered history) :
    let w := (n.begin b' shutdown).after history
    w.emitters.map Emitter.feed = c.feeds
      ∧ (∀ report, w.result? = some (.ok report) → w.shutdown = true ∧ ∀ e ∈ w.emitters, e.isOver = true)
      ∧ (∀ reason, w.result? = some (.error reason) →
        reason = .clockOverflow ∧ ∃ now, (.turn .monitor, now) ∈ history ∧ ¬ c.InRange now)
      ∧ (∀ start, began history = some start → start.later? c.reportInterval = none →
        w.result? = some (.error .clockOverflow)
          ∧ (w.shutdown = true ↔ shutdown = true ∨ ∃ now, (.turn .stopper, now) ∈ history))
      ∧ (∀ rounds, w.Rounds rounds → n.aggregator.waits + 1 < rounds.length → Ordered (history ++ rounds.flatten) →
        (∀ now, (.turn .monitor, now) ∈ history ++ rounds.flatten → c.InRange now) →
        (∀ x ∈ rounds.flatten, Monitor.Told c (began history) w.shutdown x.2) →
        ∃ report, (w.after rounds.flatten).result? = some (.ok report))
      ∧ (b'.gates.active = false → (∀ action now, (.act action, now) ∈ history → action.Ungated) →
        (∀ now, (.turn .monitor, now) ∈ history → now.later? c.updateTimeout ≠ none) →
        ∀ actor, ¬ w.IsOver actor → ∃ now, w.IsDue actor now) := by
  intro w
  refine ⟨?_, ?_, ?_, ?_, ?_, ?_⟩
  · rw [feeds_after, feeds_begin hopen]
  · intro report hresult
    obtain ⟨hmonitor, hover⟩ := of_result? hresult
    exact ⟨shutdown_of_begin hmonitor, hover⟩
  · intro reason hresult
    exact overflows_of_error hopen shutdown hordered hresult
  · intro start hbegan hover
    -- The first report is beyond the clock, and the first turn is the one to compute when it is due.
    obtain ⟨rfl, -⟩ := config_of_open hopen
    obtain ⟨hbroken, hshutdown⟩ := broken_of_began (w := n.begin b' shutdown) rfl hbegan hover
    refine ⟨?_, hshutdown⟩
    rw [result?, hbroken]
  · intro rounds hrounds hlength hordered' hrange htold
    exact exists_report_of_rounds hopen shutdown hrounds hlength hordered' hrange htold
  · intro hgates hungated htimeout actor hover
    exact exists_isDue_of_ungated hopen shutdown hordered hgates hungated htimeout hover

end Clock

/-- A node that tracks one service, feeds another and works for four milliseconds. -/
def briefConfig (reportInterval : Duration) : Config where
  tracker := { services := [.userFlag] }
  tick := .ofMillis 3
  updateTimeout := .zero
  reportInterval
  runFor := some (.ofMillis 4)
  feeds := [{ service := .carState }]

/-- The first turn of the monitor. -/
def briefStart : History := [(.turn .monitor, .zero)]

/-- A turn of everyone after the time of the node is over, and then nothing more. -/
def briefRounds : List History := [[(.turn .monitor, .ofMillis 6), (.turn (.emitter 0), .ofMillis 6)], [], [], []]

/-- What can be computed of a node that has been opened. -/
theorem exists_open_of_computed {p : Bus → Node → Bool}
    (h : (match Node.open b c with
      | ⟨b', _, .ok n⟩ => p b' n
      | _ => false) = true) :
    ∃ b' notices n, Node.open b c = ⟨b', notices, .ok n⟩ ∧ p b' n = true := by
  rcases hopen : Node.open b c with ⟨b', notices, fault | n⟩
  · rw [hopen] at h
    cases h
  · rw [hopen] at h
    exact ⟨b', notices, n, rfl, h⟩

/-- The node breaks down with the longest interval between its reports, and ends with a report otherwise. -/
theorem results_of_briefConfig :
    (∃ b notices n, Node.open {} (briefConfig .max) = ⟨b, notices, .ok n⟩
        ∧ ((n.begin b false).after briefStart).result? = some (.error .clockOverflow)
        ∧ ¬ ((n.begin b false).after briefStart).shutdown = true)
      ∧ ∃ b notices n report, Node.open {} (briefConfig (.ofMillis 30)) = ⟨b, notices, .ok n⟩
        ∧ (((n.begin b false).after briefStart).after briefRounds.flatten).result? = some (.ok report) := by
  have hstart : Ordered briefStart := List.pairwise_singleton _ _
  constructor
  · obtain ⟨b, notices, n, hopen, -⟩ := exists_open_of_computed (b := {}) (c := briefConfig .max) (p := fun _ _ => true)
      (by decide +kernel)
    obtain ⟨-, -, -, hbroken, -⟩ := result_of_history {} b (briefConfig .max) notices n false briefStart hopen hstart
    obtain ⟨hresult, hshutdown⟩ := hbroken .zero rfl (by decide)
    refine ⟨b, notices, n, hopen, hresult, ?_⟩
    rw [hshutdown]
    simp [briefStart]
  · obtain ⟨b, notices, n, hopen, hcomputed⟩ := exists_open_of_computed (b := {}) (c := briefConfig (.ofMillis 30))
      (p := fun b n =>
        let w := (n.begin b false).after briefStart
        let w₁ := w.after [(.turn .monitor, .ofMillis 6)]
        let w₂ := w.after [(.turn .monitor, .ofMillis 6), (.turn (.emitter 0), .ofMillis 6)]
        decide (n.aggregator.waits = 2) && decide (w.due? (.ofMillis 6) .monitor = some (.ofMillis 3))
          && decide (w₁.due? (.ofMillis 6) (.emitter 0) = some (.ofMillis 6))
          && w₂.monitor.isOver && w₂.emitters.all Emitter.isOver)
      (by decide +kernel)
    simp only [Bool.and_eq_true, decide_eq_true_iff] at hcomputed
    obtain ⟨⟨⟨⟨hwaits, hmonitor⟩, hemitter⟩, hmonitorOver⟩, hemitterOver⟩ := hcomputed
    obtain ⟨hfeeds, -, -, -, hends, -⟩ :=
      result_of_history {} b (briefConfig (.ofMillis 30)) notices n false briefStart hopen hstart
    -- There is one emitter, so that everyone has their turn in the first round and is over after it.
    have hlength : (((n.begin b false).after briefStart).emitters).length = 1 := by
      rw [← List.length_map Emitter.feed, hfeeds]
      rfl
    have hover : ∀ actor, (((n.begin b false).after briefStart).after briefRounds.flatten).IsOver actor := by
      intro actor
      cases actor with
      | monitor => exact hmonitorOver
      | stopper => trivial
      | emitter index =>
        intro e he
        exact List.all_eq_true.mp hemitterOver e (List.mem_of_getElem? he)
    have hround : ((n.begin b false).after briefStart).Round briefRounds.flatten := by
      intro actor hrunning
      cases actor with
      | monitor => exact ⟨[], _, _, rfl, _, hmonitor, by decide⟩
      | stopper => exact absurd trivial hrunning
      | emitter index =>
        cases index with
        | zero => exact ⟨[_], _, [], rfl, _, hemitter, by decide⟩
        | succ index =>
          refine absurd ?_ hrunning
          intro e he
          have hlt := (List.getElem?_eq_some_iff.mp he).1
          omega
    have hrounds : ((n.begin b false).after briefStart).Rounds briefRounds :=
      ⟨hround, fun actor h => absurd (hover actor) h, fun actor h => absurd (hover actor) h,
        fun actor h => absurd (hover actor) h, trivial⟩
    have hwait : n.aggregator.waits + 1 < briefRounds.length := by
      rw [hwaits]
      exact Nat.lt_succ_self 3
    have hordered : Ordered (briefStart ++ briefRounds.flatten) := by
      unfold Ordered
      decide
    have hrange : ∀ now, (.turn .monitor, now) ∈ briefStart ++ briefRounds.flatten →
        (briefConfig (.ofMillis 30)).InRange now := by
      intro now hnow
      rcases List.mem_cons.mp hnow with heq | hnow
      · cases heq
        exact ⟨by decide, by decide⟩
      · rcases List.mem_cons.mp hnow with heq | hnow
        · cases heq
          exact ⟨by decide, by decide⟩
        · cases List.mem_singleton.mp hnow
    -- The time of the node is over at all the instants of the rounds.
    have htold : ∀ x ∈ briefRounds.flatten, Monitor.Told (briefConfig (.ofMillis 30)) (began briefStart)
        ((n.begin b false).after briefStart).shutdown x.2 := by
      intro x hx
      have hinstant : x.2 = .ofMillis 6 := by
        rcases List.mem_cons.mp hx with rfl | hx
        · rfl
        · cases List.mem_singleton.mp hx
          rfl
      rw [hinstant]
      exact .inr ⟨.zero, .ofMillis 4, .ofMillis 4, rfl, rfl, by decide, by decide⟩
    obtain ⟨report, hreport⟩ := hends briefRounds hrounds hwait hordered hrange htold
    exact ⟨b, notices, n, report, hopen, hreport⟩

end Work

end TopicHealth.Node
