import TopicHealth.Proofs.Bus.Gate
import TopicHealth.Proofs.Bus.Polling

/-!
# Operations and steps

As an operation on the bus a poll waits in one piece, and others act while it does. Taken apart, a send is a delivery to
each of its readers in turn, and so whatever the operation gives while others send and take, the poll that goes step by
step can give as well. The other way round, each of its looks sees what the operation would give at that moment, and
where nobody comes between its last looks it gives what the operation does.

* `Polling.exists_steps_of_traffic`: sends and takes as moves of the other party.
* `Poller.exists_moves_of_poll`: the operation as moves of both.
* `Poller.exists_poll_of_moves`: moves of both as the operation.
-/

namespace TopicHealth

/-! ## Traffic -/

/-- What the other party of a poll does to the bus: sends and takes. -/
def Bus.Action.IsTraffic : Bus.Action → Prop
  | .send .. | .take _ => True
  | _ => False

namespace Polling

variable {p : Polling}

/-- The readers that a publisher sends to. -/
def audience (b : Bus) (pub : Publisher) : List Nat :=
  (b.readers.filter fun r => r.channel = Channel.published pub.endpoint).map Reader.id

/-- The moves of the other party that make up an action. -/
def movesOf (b : Bus) : Bus.Action → List Move
  | .send pub m => (audience b pub).flatMap fun id => [.enqueue id m, .wake]
  | .take s => [.take s.reader]
  | _ => []

/-- The steps of a poll look at the readers and change nothing about them. -/
theorem bus_steps_of_polls (p : Polling) (lates : List Bool) : (p.steps (lates.map .poll)).bus = p.bus := by
  induction lates generalizing p with
  | nil => rfl
  | cons late lates ih =>
    have hstep : p.step (.poll late) = p.stepPoll late := rfl
    rw [List.map_cons, steps_cons, ih, hstep, bus_stepPoll]

/-- Deliveries one after another leave the message at each of their readers, once. -/
theorem exists_steps_deliveries (hdelivering : p.delivering = none) {ids : List Nat} (hnodup : ids.Nodup)
    (m : Message) : ∃ token, p.steps (ids.flatMap fun id => [.enqueue id m, .wake]) =
      { p with
        bus := { p.bus with readers := p.bus.readers.map fun r => if r.id ∈ ids then r.deliver m else r }
        token } := by
  induction ids generalizing p with
  | nil =>
    refine ⟨p.token, ?_⟩
    simp [steps]
  | cons id ids ih =>
    obtain ⟨bus, readers, token, phase, delivering⟩ := p
    cases hdelivering
    obtain ⟨hid, hrest⟩ := List.nodup_cons.mp hnodup
    obtain ⟨token', hsteps⟩ := ih (p := ⟨bus.modifyReader id fun r => r.deliver m, readers,
      token || readers.contains id, phase, none⟩) rfl hrest
    refine ⟨token', hsteps.trans ?_⟩
    -- The first reader is not among those that follow.
    have hreaders : (bus.readers.map fun r => if r.id = id then r.deliver m else r).map
        (fun r => if r.id ∈ ids then r.deliver m else r) =
          bus.readers.map fun r => if r.id ∈ id :: ids then r.deliver m else r := by
      rw [List.map_map]
      refine List.map_congr_left fun r _ => ?_
      rw [Function.comp_apply]
      by_cases heq : r.id = id
      · have hnot : (r.deliver m).id ∉ ids := by
          rw [← heq] at hid
          exact hid
        rw [if_pos heq, if_neg hnot, if_pos (List.mem_cons.mpr (.inl heq))]
      · simp only [List.mem_cons, heq, if_false, false_or]
    simp only [Bus.modifyReader, hreaders]

/-- What others send or take is one or two steps of the finer system, after which the bus is the same. -/
theorem exists_steps_movesOf (hb : p.bus.WellFormed) (hdelivering : p.delivering = none) {action : Bus.Action}
    (h : action.IsTraffic) :
    ∃ token, p.steps (movesOf p.bus action) = { p with bus := p.bus.act action, token } := by
  cases action with
  | send pub m =>
    have hsublist : (audience p.bus pub).Sublist (p.bus.readers.map Reader.id) := List.filter_sublist.map _
    obtain ⟨token, hsteps⟩ := exists_steps_deliveries hdelivering (hb.nodup.sublist hsublist) m
    refine ⟨token, hsteps.trans ?_⟩
    -- A reader is in the audience if its number is, as no two readers share one.
    have haudience : ∀ r ∈ p.bus.readers,
        r.id ∈ audience p.bus pub ↔ r.channel = Channel.published pub.endpoint := by
      intro r hr
      simp only [audience, List.mem_map, List.mem_filter, decide_eq_true_eq]
      constructor
      · rintro ⟨r', ⟨hr', hchannel⟩, hid⟩
        rw [← List.inj_on_of_nodup_map hb.nodup hr' hr hid]
        exact hchannel
      · intro hchannel
        exact ⟨r, ⟨hr, hchannel⟩, rfl⟩
    have hsend : (p.bus.readers.map fun r => if r.id ∈ audience p.bus pub then r.deliver m else r) =
        (p.bus.send pub m).readers := by
      refine List.map_congr_left fun r hr => ?_
      simp only [haudience r hr]
    rw [hsend]
    rfl
  | take s =>
    obtain ⟨bus, readers, token, phase, delivering⟩ := p
    cases hdelivering
    exact ⟨token, rfl⟩
  | openPublisher | closePublisher | subscribe | retain | release | setGates | setSignals => exact h.elim

/-- All that others do to the bus can be done by moves of the other party. -/
theorem exists_steps_of_traffic (hb : p.bus.WellFormed) (hdelivering : p.delivering = none) {actions : List Bus.Action}
    (h : ∀ action ∈ actions, action.IsTraffic) :
    ∃ moves token, p.steps moves = { p with bus := p.bus.run actions, token } := by
  induction actions generalizing p with
  | nil => exact ⟨[], p.token, rfl⟩
  | cons action actions ih =>
    obtain ⟨hfirst, hrest⟩ := List.forall_mem_cons.mp h
    -- The audience of a send is that of the bus at that moment, so the moves are found action by action.
    obtain ⟨token, hsteps⟩ := exists_steps_movesOf hb hdelivering hfirst
    obtain ⟨moves, token', hlater⟩ := ih (p := { p with bus := p.bus.act action, token }) (hb.act action) hdelivering
      hrest
    refine ⟨movesOf p.bus action ++ moves, token', ?_⟩
    rw [steps_append, hsteps, hlater]
    rfl

/-- Every look of a poll is at the bus as some of the moves have left it. -/
theorem exists_moves_of_looks {look : Nat × Bool} {moves : List Move} (h : look ∈ p.looks moves) :
    ∃ earlier, earlier <+: moves ∧ look.2 = (p.steps earlier).hasUnread look.1 := by
  induction moves generalizing p with
  | nil => cases h
  | cons move moves ih =>
    rcases List.mem_append.mp h with h | h
    · refine ⟨[], List.nil_prefix, ?_⟩
      cases move with
      | poll late =>
        rw [look?, Option.mem_toList] at h
        split at h
        · cases h
          rfl
        · cases h
      | enqueue | wake | take => cases h
    · obtain ⟨earlier, hfirst, hlook⟩ := ih h
      exact ⟨move :: earlier, (List.prefix_cons_inj move).mpr hfirst, hlook⟩

theorem wellFormed_steps (hb : p.bus.WellFormed) (moves : List Move) : (p.steps moves).bus.WellFormed := by
  induction moves generalizing p with
  | nil => exact hb
  | cons move moves ih =>
    refine ih ?_
    apply step_cases (P := fun q => q.bus.WellFormed)
    case poll =>
      intro late _
      rw [bus_stepPoll]
      exact hb
    case enqueue =>
      intro d m _ _
      exact hb.modifyReader d fun _ => rfl
    case take =>
      intro d _ _
      exact hb.modifyReader d fun _ => rfl
    all_goals
      intros
      exact hb

end Polling

/-! ## Waits -/

/-- Actions of others, each at an instant or once nothing else can happen. -/
def Script.ofActions (timed : List (Option Duration × Bus.Action)) : Script :=
  timed.map fun x => ⟨x.1, fun b => b.act x.2⟩

/-- Of the actions of others, the first ones come before a wait is over. -/
theorem Wait.exists_actions_of_pass {reason : Wait} {timed : List (Option Duration × Bus.Action)} {b b' : Bus}
    {now now' : Duration} {rest : Script} (h : reason.pass b now (Script.ofActions timed) = some (b', now', rest)) :
    ∃ actions, actions <+: timed.map Prod.snd ∧ b' = b.run actions := by
  induction timed generalizing b now with
  | nil =>
    rw [Script.ofActions, List.map_nil, Wait.pass_nil] at h
    refine ⟨[], List.nil_prefix, ?_⟩
    split at h
    · cases h
      rfl
    · obtain ⟨t, -, heq⟩ := Option.map_eq_some_iff.mp h
      cases heq
      rfl
  | cons x timed ih =>
    obtain ⟨time, action⟩ := x
    -- The wait is over before the first action, or goes on after it.
    have hstay : b' = b → ∃ actions, actions <+: ((time, action) :: timed).map Prod.snd ∧ b' = b.run actions :=
      fun heq => ⟨[], List.nil_prefix, heq⟩
    have hnext : ∀ {now}, reason.pass (b.act action) now (Script.ofActions timed) = some (b', now', rest) →
        ∃ actions, actions <+: ((time, action) :: timed).map Prod.snd ∧ b' = b.run actions := by
      intro now hpass
      obtain ⟨actions, hfirst, heq⟩ := ih hpass
      exact ⟨action :: actions, List.prefix_cons_inj action |>.mpr hfirst, heq⟩
    have hcons : Script.ofActions ((time, action) :: timed) =
        ⟨time, fun b => b.act action⟩ :: Script.ofActions timed := rfl
    rw [hcons, Wait.pass] at h
    split at h
    · cases h
      exact hstay rfl
    · dsimp only at h
      split at h
      · split at h
        · exact hnext h
        · cases h
          exact hstay rfl
      · cases h
        exact hstay rfl
      · exact hnext h
      · exact hnext h

/-! ## Polls -/

variable [Clock]

namespace Poller

variable {p : Poller} {b : Bus}

/-- Whatever others send and take while a poll waits, it ends with what it can end with as a poll that goes step by
step. -/
theorem exists_moves_of_poll (hb : b.WellFormed) {timed : List (Option Duration × Bus.Action)}
    (htraffic : ∀ x ∈ timed, x.2.IsTraffic) {timeout now : Duration} {found : List Subscriber}
    (h : ((p.poll timeout b now).run now (Script.ofActions timed)).ending = .done found) (token : Bool) :
    ∃ moves, ((p.polling b token).steps moves).phase = .finished (found.map Subscriber.reader)
      ∧ ((p.polling b token).steps moves).bus = ((p.poll timeout b now).run now (Script.ofActions timed)).bus := by
  -- The actions that come before the end of the poll, which then gives who is ready.
  obtain ⟨actions, hactions, hbus, rfl⟩ : ∃ actions, (∀ action ∈ actions, action.IsTraffic)
      ∧ ((p.poll timeout b now).run now (Script.ofActions timed)).bus = b.run actions
      ∧ found = p.ready (b.run actions) := by
    rw [poll_eq] at h ⊢
    split at h
    · rename_i hover
      rw [if_pos hover]
      cases h
      exact ⟨[], List.forall_mem_nil _, rfl, rfl⟩
    · rename_i hover
      rw [if_neg hover]
      rw [Call.run] at h ⊢
      cases hpass : (Wait.unread p.readers (now.later? timeout)).pass b now (Script.ofActions timed) with
      | none =>
        rw [hpass] at h
        cases h
      | some next =>
        obtain ⟨b', now', rest⟩ := next
        rw [hpass] at h
        cases h
        obtain ⟨actions, hfirst, rfl⟩ := Wait.exists_actions_of_pass hpass
        refine ⟨actions, ?_, rfl, rfl⟩
        intro action haction
        obtain ⟨x, hx, rfl⟩ := List.mem_map.mp (hfirst.subset haction)
        exact htraffic x hx
  obtain ⟨moves, token', hsteps⟩ := Polling.exists_steps_of_traffic (p := p.polling b token) hb rfl hactions
  have hothers : (p.polling b token).steps moves = p.polling (b.run actions) token' := hsteps
  obtain ⟨-, -, hends⟩ := polling_alone p (b.run actions) token' []
  -- The poll finds what the others have left, at the latest when it is late.
  refine ⟨moves ++ (List.replicate (p.readers.length + 3) true).map .poll, ?_, ?_⟩
  · rw [Polling.steps_append, hothers, List.map_replicate]
    exact hends _ (Nat.le_refl _)
  · rw [Polling.steps_append, hothers, Polling.bus_steps_of_polls, hbus]
    rfl

/-- The operation ends with the subscribers that are ready, unless there are none and its time does not end. -/
theorem ending_poll (hb : b.WellFormed) {timeout now : Duration}
    (h : p.ready b ≠ [] ∨ now.later? timeout ≠ none) :
    ((p.poll timeout b now).run now []).ending = .done (p.ready b) := by
  rw [poll_eq]
  split_ifs with hover
  · rfl
  -- Nobody is ready, so that the poll sleeps until its time ends and finds the same bus then.
  · have hnone : p.ready b = [] := by
      by_contra hready
      refine hover ?_
      rw [Wait.isOver, (any_unread_iff hb).mpr hready, Bool.true_or]
    obtain ⟨t, ht⟩ := Option.ne_none_iff_exists'.mp (h.resolve_left (not_not.mpr hnone))
    rw [Call.run, Wait.pass_nil, if_neg hover, Wait.deadline?, ht]
    rfl

/-- Whatever a poll that goes step by step ends with, it has looked at each of its readers last at a moment at which the
operation would have given the reader, if it gives it, and would not have, if it does not. If from the beginning of its
last scan on the other party does nothing, what it gives is what the operation gives that begins then, with any timeout
with which that ends. -/
theorem exists_poll_of_moves (p : Poller) (hb : b.WellFormed) (token : Bool) (moves : List Polling.Move)
    {ready : List Nat} (h : ((p.polling b token).steps moves).phase = .finished ready) :
    let before (earlier : List Polling.Move) : Bus := ((p.polling b token).steps earlier).bus
    (∃ scan : List (Nat × Bool), scan.map Prod.fst = p.readers ∧ ready = (scan.filter Prod.snd).map Prod.fst
      ∧ ∀ look ∈ scan, ∃ earlier, earlier <+: moves
        ∧ (look.2 = true ↔ look.1 ∈ (p.ready (before earlier)).map Subscriber.reader))
    ∧ ∀ (earlier : List Polling.Move) (lates : List Bool) (last : Bool), moves = earlier ++ lates.map .poll →
      ((p.polling b token).steps earlier).phase = .scanning [] p.readers last →
        ready = (p.ready (before earlier)).map Subscriber.reader
          ∧ ∀ timeout now : Duration, ready ≠ [] ∨ now.later? timeout ≠ none →
            ((p.poll timeout (before earlier) now).run now []).ending = .done (p.ready (before earlier)) := by
  intro before
  have hbegin : (p.polling b token).Scanned [] := Polling.scanned_of_draining rfl
  have hscanned := hbegin.steps moves
  rw [Polling.Scanned, h, List.nil_append, Polling.readers_steps] at hscanned
  -- The looks of the last scan, each at the bus as an earlier part of the moves has left it.
  obtain ⟨others, scan, hlooks, hreaders, hready⟩ := hscanned
  refine ⟨⟨scan, hreaders, hready, ?_⟩, ?_⟩
  · intro look hlook
    have hmem : look ∈ (p.polling b token).looks moves := hlooks ▸ List.mem_append_right others hlook
    obtain ⟨earlier, hearlier, hunread⟩ := Polling.exists_moves_of_looks hmem
    have hreader : look.1 ∈ p.readers := by
      change look.1 ∈ (p.polling b token).readers
      rw [← hreaders]
      exact List.mem_map_of_mem hlook
    refine ⟨earlier, hearlier, ?_⟩
    rw [readers_ready p (before earlier) token, List.mem_filter, hunread]
    exact ⟨fun hsome => ⟨hreader, hsome⟩, fun hsome => hsome.2⟩
  · rintro earlier lates last rfl hphase
    rw [Polling.steps_append] at h
    have hreaders' : ((p.polling b token).steps earlier).readers = p.readers := Polling.readers_steps _ _
    -- From here on only the poll moves, so that all looks of the scan are at one bus.
    have hscan : ((p.polling b token).steps earlier).Scanned [] := by
      rw [Polling.Scanned, hphase]
      exact ⟨[], [], rfl, hreaders'.symm, rfl⟩
    have heq : ready = (p.ready (before earlier)).map Subscriber.reader := by
      rw [readers_ready p (before earlier) token, Polling.ready_of_polls hscan h, hreaders']
      rfl
    refine ⟨heq, fun timeout now hends => ?_⟩
    refine ending_poll (Polling.wellFormed_steps hb earlier) (hends.imp_left ?_)
    intro hne hnone
    rw [hnone] at heq
    exact hne heq

end Poller

end TopicHealth
