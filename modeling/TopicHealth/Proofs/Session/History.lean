import TopicHealth.Proofs.Session.Holders
import TopicHealth.Proofs.Session.Taking

/-!
# Histories of readers

What a user has sent and received makes the history of each reader: the messages sent on its channel, and the receives
through any of its subscribers, those of aggregators among them, since the reader was made. With the gates out of use a
reader holds what its history leaves.

* `traffic`, `history`: what a move, and what some moves have to do with a reader.
* `Follows`, `follows`: one move; `Recorded`, `recorded_after`: any moves.
-/

namespace TopicHealth.Session

variable {σ : Session} {move : Move} {ch : Channel} {id : Nat}

/-! ## What a bus leads to -/

/-- To move things about changes no queue. -/
theorem Rearranged.undisturbed {τ : Session} (h : Rearranged σ τ) : σ.bus.Undisturbed τ.bus := by
  cases h with
  | renumbered hb => exact hb.undisturbed
  | made hmade => exact hmade.undisturbed
  | shared => exact .retainAll σ.bus _
  | retimed => exact .refl σ.bus
  | registered => exact .retain σ.bus _
  | dropped =>
    rename_i place h _
    change σ.bus.Undisturbed (h.drop σ.bus)
    rw [h.drop_eq, Bus.closeAll_eq]
    exact (Bus.Undisturbed.releaseAll σ.bus h.subscribers).trans
      (.of_readers_subset (Nat.le_refl _) (List.Subset.refl _))
  | signals => exact .of_readers_subset (Nat.le_refl _) (List.Subset.refl _)

theorem Rearranged.gates {τ : Session} (h : Rearranged σ τ) : τ.bus.gates = σ.bus.gates := by
  cases h with
  | renumbered hb =>
    obtain ⟨serial, -, rfl⟩ := hb
    rfl
  | made hmade => exact hmade.gates
  | shared => exact (Bus.ReadersOnly.retainAll σ.bus _).gates
  | dropped =>
    rename_i place h _
    change (h.drop σ.bus).gates = σ.bus.gates
    rw [h.drop_eq, Bus.closeAll_eq]
    exact (Bus.ReadersOnly.releaseAll σ.bus h.subscribers).gates
  | retimed | registered | signals => rfl

/-- What a reader has to do with those of an earlier bus: one of them is it, and some traffic has led from its queue to
the present one; or it is new and holds nothing. -/
def Leads (b : Bus) (traffic : Channel → Nat → List Traffic) (r' : Reader) : Prop :=
  (∃ r ∈ b.readers, r.id = r'.id ∧ r.channel = r'.channel ∧ r.conflate = r'.conflate
      ∧ Traffic.Leads r.conflate r.queue (traffic r.channel r.id) r'.queue)
    ∨ b.serial ≤ r'.id ∧ r'.queue = []

/-- Where the queues are as they were, there was no traffic. -/
theorem leads_of_undisturbed {b b' : Bus} {traffic : Channel → Nat → List Traffic} (h : b.Undisturbed b')
    (hnone : ∀ ch id, traffic ch id = []) {r' : Reader} (hr' : r' ∈ b'.readers) : Leads b traffic r' := by
  rcases h.readers r' hr' with ⟨r, hr, hid, hch, hconflate, hqueue⟩ | hnew
  · refine .inl ⟨r, hr, hid, hch, hconflate, ?_⟩
    rw [hnone, hqueue]
    exact .nothing
  · exact .inr hnew

/-- A send goes to the readers of its channel. -/
theorem leads_send {p : Publisher} {m : Message} {traffic : Channel → Nat → List Traffic}
    (htraffic : ∀ ch id, traffic ch id = if .published p.endpoint = ch then [.sent m] else [])
    {r' : Reader} (hr' : r' ∈ (σ.bus.send p m).readers) : Leads σ.bus traffic r' := by
  obtain ⟨r, hr, rfl⟩ := List.mem_map.mp hr'
  left
  by_cases hch : r.channel = Channel.published p.endpoint
  · rw [if_pos hch]
    refine ⟨r, hr, rfl, rfl, rfl, ?_⟩
    rw [htraffic, if_pos hch.symm]
    exact Traffic.Leads.nothing.sent m
  · rw [if_neg hch]
    refine ⟨r, hr, rfl, rfl, rfl, ?_⟩
    rw [htraffic, if_neg (Ne.symm hch)]
    exact .nothing

/-- What was taken is what the readers had, the oldest first. -/
theorem leads_taken {subs : List Subscriber} {traffic : Channel → Nat → List Traffic} (hσ : σ.Sound)
    (htraffic : ∀ ch id, traffic ch id =
      ((Aggregator.takings σ.bus subs).filter fun t => t.1 = id).map fun t => .received t.2)
    {r' : Reader} (hr' : r' ∈ (Aggregator.taken σ.bus subs).readers) : Leads σ.bus traffic r' := by
  obtain ⟨r, hr, hid, hch, hconflate, hleads⟩ := Aggregator.leads_taken hσ.shared.wellFormed hr'
  refine .inl ⟨r, hr, hid, hch, hconflate, ?_⟩
  rw [htraffic]
  exact hleads

/-! ## Traffic -/

variable [Clock]

/-- The message that a move sends, with the channel. -/
def sent? (σ : Session) : Move → Option (Channel × Message)
  | .send place service m =>
    match σ.publisher? place service with
    | some (.ok p) => some (.published p.endpoint, m)
    | _ => none
  | _ => none

/-- What a move receives, each time from a reader: a message, or none where there is none. A receive gets what it is
answered with, and an update what the subscribers get that it reads, unless it is stuck before it reads them. -/
def received (σ : Session) : Move → List (Nat × Option Message)
  | .receive place nonBlocking start =>
    match σ.subscriber? place, σ.reply (.receive place nonBlocking start) with
    | some s, .message m => [(s.reader, m)]
    | _, _ => []
  | .update place timeout start =>
    match σ.aggregator? place, σ.reply (.update place timeout start) with
    | some _, .stuck => []
    | some a, _ => Aggregator.takings σ.bus (a.read σ.bus)
    | none, _ => []
  | _ => []

/-- What a move has to do with a reader of a channel. -/
def traffic (σ : Session) (ch : Channel) (id : Nat) (move : Move) : List Traffic :=
  (((σ.sent? move).toList.filter fun t => t.1 = ch).map fun t => .sent t.2)
    ++ ((σ.received move).filter fun t => t.1 = id).map fun t => .received t.2

/-- What some moves have to do with a reader of a channel, as long as there is one of its number. -/
def history (ch : Channel) (id : Nat) : Session → List Move → List Traffic
  | _, [] => []
  | σ, move :: moves =>
    (if (σ.bus.reader? id).isSome then σ.traffic ch id move else []) ++ history ch id (σ.step move) moves

theorem history_concat (σ : Session) (moves : List Move) :
    history ch id σ (moves ++ [move]) = history ch id σ moves
      ++ if ((σ.run moves).bus.reader? id).isSome then (σ.run moves).traffic ch id move else [] := by
  induction moves generalizing σ with
  | nil => exact List.append_nil _
  | cons first moves ih =>
    rw [List.cons_append, history, ih, history, List.append_assoc]
    rfl

/-- The move does not put gates to use. -/
def Move.Ungated : Move → Prop
  | .setGates gates => gates.active = false
  | _ => True

/-! ## One move -/

theorem traffic_of_quiet (hquiet : move.Quiet) : σ.traffic ch id move = [] := by
  cases move with
  | send | receive | update | setGates => cases hquiet
  | _ => rfl

/-- A receive takes what it is answered with, if it is, through the subscriber at its place. -/
theorem exists_taken_of_receive (hungated : σ.bus.gates.active = false) (place : Nat) (nonBlocking : Bool)
    (start : Duration) : ∃ subs, (∀ s ∈ subs, σ.subscriber? place = some s)
      ∧ (σ.step (.receive place nonBlocking start)).bus = Aggregator.taken σ.bus subs
      ∧ σ.received (.receive place nonBlocking start) = Aggregator.takings σ.bus subs := by
  cases hsub : σ.subscriber? place with
  | none =>
    refine ⟨[], by simp, ?_, ?_⟩
    · rw [step, perform, hsub]
      rfl
    · rw [received, hsub]
      rfl
  | some s =>
    have hperform : σ.perform (.receive place nonBlocking start) =
        σ.call (s.receive nonBlocking) start (fun _ τ => τ) .message := by
      rw [perform, hsub]
      rfl
    rw [received, hsub, reply, step, hperform]
    -- A receive that is answered takes one message or finds none; one that breaks down or is stuck takes nothing.
    rcases s.run_receive hungated nonBlocking start with ⟨hdone, hbus⟩ | ⟨hnone, hbus⟩
    · rw [call_of_done hdone]
      exact ⟨[s], by simp, hbus, rfl⟩
    · refine ⟨[], by simp, ?_⟩
      cases hending : ((s.receive nonBlocking σ.bus start).run start []).ending with
      | done m => exact absurd hending (hnone m)
      | broken reason =>
        rw [call_of_broken hending]
        exact ⟨hbus, rfl⟩
      | stuck =>
        rw [call_of_stuck hending]
        exact ⟨hbus, rfl⟩

/-- An update takes what its subscribers get, unless it is stuck. -/
theorem exists_taken_of_update (hσ : σ.Sound) (hungated : σ.bus.gates.active = false) (place : Nat)
    (timeout start : Duration) : ∃ subs, (σ.step (.update place timeout start)).bus = Aggregator.taken σ.bus subs
      ∧ σ.received (.update place timeout start) = Aggregator.takings σ.bus subs := by
  cases ha : σ.aggregator? place with
  | none =>
    refine ⟨[], ?_, ?_⟩
    · rw [step, perform, ha]
      rfl
    · rw [received, ha]
      rfl
  | some a =>
    have hperform : σ.perform (.update place timeout start) =
        σ.call (a.update timeout) start (fun a τ => τ.put place (some (.aggregator a)) τ.bus) fun a =>
          .tracked a.tracker := by
      rw [perform, ha]
      rfl
    rw [received, ha, reply, step, hperform]
    rcases Aggregator.run_update_taken hσ.shared.wellFormed hungated a start timeout with
      ⟨hstuck, hbus⟩ | ⟨⟨now, hending⟩, hbus⟩
    · rw [call_of_stuck hstuck]
      exact ⟨[], hbus, rfl⟩
    · refine ⟨a.read σ.bus, ?_⟩
      -- The messages are gone whether the tick succeeds or breaks down.
      cases hended : a.ended now ((Aggregator.takings σ.bus (a.read σ.bus)).filterMap fun t => t.2.bind
          Aggregator.decoded?) with
      | done a' =>
        rw [call_of_done (hending.trans hended)]
        exact ⟨hbus, rfl⟩
      | broken reason =>
        rw [call_of_broken (hending.trans hended)]
        exact ⟨hbus, rfl⟩
      | stuck => exact absurd hended (a.ended_ne_stuck now _)

/-- A send reaches the bus if there is a publisher for it. -/
theorem send_cases (σ : Session) (place : Nat) (service : Option Service) (m : Message) :
    (∃ p, (σ.step (.send place service m)).bus = σ.bus.send p m
        ∧ σ.sent? (.send place service m) = some (.published p.endpoint, m))
      ∨ (σ.step (.send place service m)).bus = σ.bus ∧ σ.sent? (.send place service m) = none := by
  rw [step, perform, usingPublisher, sent?]
  rcases σ.publisher? place service with _ | fault | p
  · exact .inr ⟨rfl, rfl⟩
  · exact .inr ⟨rfl, rfl⟩
  · exact .inl ⟨p, rfl, rfl⟩

/-- After a move every reader is one that there was, with what the traffic of the move leaves of its queue, or it is
new and holds nothing. -/
def Follows (σ : Session) (move : Move) : Prop :=
  σ.bus.serial ≤ (σ.step move).bus.serial
    ∧ ∀ r' ∈ (σ.step move).bus.readers, Leads σ.bus (fun ch id => σ.traffic ch id move) r'

theorem follows_of_quiet (hσ : σ.Sound) (hquiet : move.Quiet) : σ.Follows move := by
  have hundisturbed := (rearranged_step hσ hquiet).undisturbed
  refine ⟨hundisturbed.serial, fun r' hr' => leads_of_undisturbed hundisturbed (fun ch id => ?_) hr'⟩
  exact traffic_of_quiet hquiet

theorem follows_of_send (σ : Session) (place : Nat) (service : Option Service) (m : Message) :
    σ.Follows (.send place service m) := by
  have htraffic : ∀ ch id, σ.traffic ch id (.send place service m) =
      ((σ.sent? (.send place service m)).toList.filter fun t => t.1 = ch).map fun t => .sent t.2 :=
    fun ch id => List.append_nil _
  rcases send_cases σ place service m with ⟨p, hbus, hsent⟩ | ⟨hbus, hsent⟩
  · rw [Follows, hbus]
    refine ⟨Nat.le_refl _, fun r' hr' => leads_send (fun ch id => ?_) hr'⟩
    rw [htraffic, hsent, Option.toList_some, List.filter_singleton]
    split_ifs with hch
    · simp [hch]
    · simp [hch]
  · rw [Follows, hbus]
    refine ⟨Nat.le_refl _, fun r' hr' => leads_of_undisturbed (.refl σ.bus) (fun ch id => ?_) hr'⟩
    rw [htraffic, hsent]
    rfl

theorem follows_of_taken {subs : List Subscriber} (hσ : σ.Sound)
    (hbus : (σ.step move).bus = Aggregator.taken σ.bus subs)
    (hreceived : σ.received move = Aggregator.takings σ.bus subs) (hsent : σ.sent? move = none) : σ.Follows move := by
  rw [Follows, hbus, Aggregator.serial_taken]
  refine ⟨Nat.le_refl _, fun r' hr' => leads_taken hσ (fun ch id => ?_) hr'⟩
  rw [traffic, hreceived, hsent]
  rfl

/-- Whatever the move, the traffic that it is said to make leads from the queues before it to those after it. -/
theorem follows (hσ : σ.Sound) (hungated : σ.bus.gates.active = false) (move : Move) : σ.Follows move := by
  cases move using Move.cases_quiet with
  | quiet move hquiet => exact follows_of_quiet hσ hquiet
  | send place service m => exact follows_of_send σ place service m
  | receive place nonBlocking start =>
    obtain ⟨subs, -, hbus, hreceived⟩ := exists_taken_of_receive hungated place nonBlocking start
    exact follows_of_taken hσ hbus hreceived rfl
  | update place timeout start =>
    obtain ⟨subs, hbus, hreceived⟩ := exists_taken_of_update hσ hungated place timeout start
    exact follows_of_taken hσ hbus hreceived rfl
  | setGates gates => exact ⟨Nat.le_refl _, fun r' hr' => .inl ⟨r', hr', rfl, rfl, rfl, .nothing⟩⟩

/-! ## Gates -/

/-- Gates stay out of use until a move puts them to use. -/
theorem gates_step (hσ : σ.Sound) (hungated : σ.bus.gates.active = false) (hmove : move.Ungated) :
    (σ.step move).bus.gates.active = false := by
  cases move using Move.cases_quiet with
  | quiet move hquiet =>
    -- Only one move sets gates, and it says which.
    rw [(rearranged_step hσ hquiet).gates]
    exact hungated
  | send place service m =>
    rcases send_cases σ place service m with ⟨p, hbus, -⟩ | ⟨hbus, -⟩
    · rw [hbus]
      exact hungated
    · rw [hbus]
      exact hungated
  | receive place nonBlocking start =>
    obtain ⟨subs, -, hbus, -⟩ := exists_taken_of_receive hungated place nonBlocking start
    rw [hbus, Aggregator.gates_taken]
    exact hungated
  | update place timeout start =>
    obtain ⟨subs, hbus, -⟩ := exists_taken_of_update hσ hungated place timeout start
    rw [hbus, Aggregator.gates_taken]
    exact hungated
  | setGates gates => exact hmove

/-! ## Any moves -/

/-- After some moves the gates are out of use, every reader holds what its history leaves, and numbers that were not
given out have none. -/
structure Recorded (moves : List Move) (σ : Session) : Prop where
  sound : σ.Sound
  ungated : σ.bus.gates.active = false
  leads : ∀ r ∈ σ.bus.readers, Traffic.Leads r.conflate [] (history r.channel r.id {} moves) r.queue
  unborn : ∀ ch id, σ.bus.serial ≤ id → history ch id {} moves = []

/-- The history of a number that is not given out before a move does not go on with it. -/
theorem Recorded.unborn_step {moves : List Move} (h : Recorded moves (after moves)) (ch : Channel)
    (hid : (after moves).bus.serial ≤ id) : history ch id {} (moves ++ [move]) = [] := by
  have hnone : (run {} moves).bus.reader? id = none := h.sound.shared.wellFormed.reader?_eq_none hid
  rw [history_concat, h.unborn ch id hid, hnone]
  rfl

/-- One move more: the queue of each reader follows from the traffic of all the moves. -/
theorem Recorded.step {moves : List Move} (h : Recorded moves (after moves)) (hmove : move.Ungated) :
    Recorded (moves ++ [move]) (after (moves ++ [move])) := by
  rw [after_concat]
  obtain ⟨hserial, hleads⟩ := follows h.sound h.ungated move
  constructor
  case sound => exact h.sound.step move
  case ungated => exact gates_step h.sound h.ungated hmove
  case leads =>
    intro r' hr'
    rcases hleads r' hr' with ⟨r, hr, hid, hch, hconflate, hstep⟩ | ⟨hnew, hqueue⟩
    · -- A reader that there was goes on from the history it had.
      have hfound : (run {} moves).bus.reader? r.id = some r :=
        h.sound.shared.wellFormed.reader?_eq_some_iff.mpr ⟨hr, rfl⟩
      rw [← hid, ← hch, ← hconflate, history_concat, hfound]
      exact (h.leads r hr).trans hstep
    · rw [h.unborn_step r'.channel hnew, hqueue]
      exact .nothing
  case unborn =>
    intro ch id hid
    exact h.unborn_step ch (hserial.trans hid)

/-- After any moves that leave the gates out of use every reader holds what its history leaves. -/
theorem recorded_after (moves : List Move) (hungated : ∀ move ∈ moves, move.Ungated) :
    Recorded moves (after moves) := by
  -- A history grows at its end, so the last move is taken off and not the first.
  induction moves using List.reverseRecOn with
  | nil =>
    constructor
    case sound => exact sound_empty
    case ungated => rfl
    case leads =>
      intro r hr
      cases hr
    case unborn => exact fun _ _ _ => rfl
  | append_singleton moves move ih =>
    have hbefore := ih fun earlier hearlier => hungated earlier (List.mem_append_left _ hearlier)
    exact hbefore.step (hungated move (List.mem_append_right _ List.mem_cons_self))

end TopicHealth.Session
