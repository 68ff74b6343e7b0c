import TopicHealth.Proofs.Aggregator.Gate
import TopicHealth.Proofs.Aggregator.Turn
import TopicHealth.Proofs.Tracker.Independence

/-!
# Endpoints

A message counts for the service whose payload it holds, whichever endpoint it was sent on. So two runs in which
different bytes are sent on the endpoints of other services may come to know different things of a service, but only
by messages that are events of that service.

* `status_differs_of_mislabelled`: a message on the endpoint of another service that makes the difference.
* `AgreeFor`: runs that give a service the same by each of their updates, whatever else is sent in them.
* `InStep.act`, `InStep.update`, `inStep_of_steps`: such runs stay in step for the service.
* `agreeFor_of_varies`: runs in which the bytes on other endpoints vary.
* `status_eq_of_sent_elsewhere`: the status of a service after runs that agree for it.
-/

namespace TopicHealth.Aggregator

open Tracker (eventsOf)

variable {c : Tracker.Config} {ip : IpAddress} {s : Service} {sent : Channel → Option Message}
  {may : Publisher → Message → Message → Prop} {move move' : Move} {earlier earlier' moves moves' : List Move}
  {b b' b₁ b₁' : Bus} {a a' a₁ a₁' : Aggregator} {start timeout start' timeout' : Duration}

/-! ## Runs that differ elsewhere -/

/-- The event of a service that a message is, if it is one. -/
def eventOf? (s : Service) (m : Message) : Option Event := (decoded? m).filter fun e => e.service = s

/-- Two runs have the same move, or a publisher sends other bytes in the second, where it may. -/
inductive Move.Varies (may : Publisher → Message → Message → Prop) : Move → Move → Prop
  | update (start timeout : Duration) : Move.Varies may (.update start timeout) (.update start timeout)
  | same (p : Publisher) (m : Message) : Move.Varies may (.act (.send p m)) (.act (.send p m))
  | vary {p : Publisher} {m m' : Message} (h : may p m m') :
    Move.Varies may (.act (.send p m)) (.act (.send p m'))

/-- Bytes on an endpoint that is not the service's. -/
def SentElsewhere (s : Service) (p : Publisher) (_ _ : Message) : Prop := p.endpoint ≠ s.name

/-! ## Events sent on another endpoint -/

/-- How many intervals the history of a service holds after some moves. -/
def historyLength? [Clock] (s : Service) (moves : List Move) (b : Bus) (a : Aggregator) : Option Nat :=
  (steps moves b a).bind fun (_, a) => (a.tracker.status? s).map fun st => st.history.len

theorem exists_of_historyLength? [Clock] {len : Nat} (h : historyLength? s moves b a = some len) :
    ∃ b' a' st, steps moves b a = some (b', a') ∧ a'.tracker.status? s = some st ∧ st.history.len = len := by
  obtain ⟨⟨b', a'⟩, hsteps, hlen⟩ := Option.bind_eq_some_iff.mp h
  obtain ⟨st, hst, rfl⟩ := Option.map_eq_some_iff.mp hlen
  exact ⟨b', a', st, hsteps, hst, rfl⟩

/-- Two services, of which events of the first may be sent on the endpoint of the second. -/
def neighbourConfig : Tracker.Config := { services := [.pandaStates, .userFlag] }

theorem validate_neighbourConfig : neighbourConfig.validate = .ok () :=
  (Tracker.Config.validate_eq_ok_iff neighbourConfig).mpr (by decide)

/-- An event of the first service on its own endpoint, some bytes on the other one, and an update. -/
def movesWith (bytes : Message) : List Move :=
  [.act (.send ⟨"pandaStates"⟩ [8, 1, 5, 0]), .act (.send ⟨"userFlag"⟩ bytes), .update .zero .zero]

/-- Bytes on the other endpoint make a difference to the first service if they are an event of it: the update then
adds two intervals to its history, and one if they are an event of the second service. -/
theorem status_differs_of_mislabelled : ∃ b notices a b₁ b₂ a₁ a₂ st st₁ st₂,
    Aggregator.open {} neighbourConfig = ⟨b, notices, .ok a⟩
      ∧ List.Forall₂ (Move.Varies (SentElsewhere .pandaStates)) (movesWith [7, 1, 5, 0]) (movesWith [7, 1, 11])
      ∧ steps (movesWith [7, 1, 5, 0]) b a = some (b₁, a₁) ∧ steps (movesWith [7, 1, 11]) b a = some (b₂, a₂)
      ∧ a.tracker.status? .pandaStates = some st ∧ st.history.len = 0
      ∧ a₁.tracker.status? .pandaStates = some st₁ ∧ st₁.history.len = 2
      ∧ a₂.tracker.status? .pandaStates = some st₂ ∧ st₂.history.len = 1 := by
  have hopened : ∃ b notices a, Aggregator.open {} neighbourConfig = ⟨b, notices, .ok a⟩
      ∧ historyLength? .pandaStates [] b a = some 0
      ∧ historyLength? .pandaStates (movesWith [7, 1, 5, 0]) b a = some 2
      ∧ historyLength? .pandaStates (movesWith [7, 1, 11]) b a = some 1 := by
    rw [Aggregator.open, validate_neighbourConfig]
    exact ⟨_, _, _, rfl, by decide +kernel, by decide +kernel, by decide +kernel⟩
  obtain ⟨b, notices, a, hopen, hnone, htwo, hone⟩ := hopened
  obtain ⟨_, _, st, hstart, hst, hlen⟩ := exists_of_historyLength? hnone
  obtain ⟨b₁, a₁, st₁, hsteps₁, hst₁, hlen₁⟩ := exists_of_historyLength? htwo
  obtain ⟨b₂, a₂, st₂, hsteps₂, hst₂, hlen₂⟩ := exists_of_historyLength? hone
  cases hstart
  have hname : (⟨"userFlag"⟩ : Publisher).endpoint ≠ Service.name .pandaStates := by
    decide
  have hmoves : List.Forall₂ (Move.Varies (SentElsewhere .pandaStates)) (movesWith [7, 1, 5, 0])
      (movesWith [7, 1, 11]) :=
    .cons (.same _ _) (.cons (.vary hname) (.cons (.update _ _) .nil))
  exact ⟨b, notices, a, b₁, b₂, a₁, a₂, st, st₁, st₂, hopen, hmoves, hsteps₁, hsteps₂, hst, hlen, hst₁, hlen₁, hst₂,
    hlen₂⟩

/-! ## Runs that agree for a service -/

/-- The last bytes that were sent on the endpoint of a service, to an aggregator with this configuration, since the
update before. -/
def sentFor? (c : Tracker.Config) (moves : List Move) (r : Service) : Option Message :=
  (IpAddress.parse? c.addr).bind fun ip => lastSent moves ⟨ip, r.name⟩

/-- When an update after some moves goes on, if it does: at once if anything was sent to a polled service, and else at
its deadline. -/
def wakening? [Clock] (c : Tracker.Config) (moves : List Move) (start timeout : Duration) : Option Duration :=
  if ∀ r ∈ c.polled, sentFor? c moves r = none then start.later? timeout else some start

/-- Two runs of sends and updates in which a service is given the same. Of the bytes sent on an endpoint between two
updates only the last count, and of these only whether they are an event of the service, and which. The clock has to
show the same when an update goes on. All else is open: which bytes are sent, by whom, and how often. -/
inductive AgreeFor [Clock] (c : Tracker.Config) (s : Service) : List Move → List Move → Prop
  | nil : AgreeFor c s [] []
  | left {moves moves' : List Move} (h : AgreeFor c s moves moves') (p : Publisher) (m : Message) :
    AgreeFor c s (moves ++ [.act (.send p m)]) moves'
  | right {moves moves' : List Move} (h : AgreeFor c s moves moves') (p : Publisher) (m : Message) :
    AgreeFor c s moves (moves' ++ [.act (.send p m)])
  | update {moves moves' : List Move} {start timeout start' timeout' : Duration} (h : AgreeFor c s moves moves')
    (hevents : ∀ r ∈ c.services, (sentFor? c moves r).bind (eventOf? s) = (sentFor? c moves' r).bind (eventOf? s))
    (hclock : wakening? c moves start timeout = wakening? c moves' start' timeout') :
    AgreeFor c s (moves ++ [.update start timeout]) (moves' ++ [.update start' timeout'])

theorem sentFor?_eq (hip : IpAddress.parse? c.addr = some ip) (moves : List Move) (r : Service) :
    sentFor? c moves r = lastSent moves ⟨ip, r.name⟩ := by
  rw [sentFor?, hip, Option.bind_some]

/-- The events of a service that an update takes in, whatever endpoints they were sent on. -/
theorem eventsOf_sentBatch (s : Service) (c : Tracker.Config) (ip : IpAddress) (sent : Channel → Option Message) :
    eventsOf s (sentBatch c ip sent) = c.readOrder.filterMap fun r => (sent ⟨ip, r.name⟩).bind (eventOf? s) := by
  have hgaps : ∀ events : List Event, (events.map some).filterMap id = events := by
    intro events
    simp
  rw [eventsOf, sentBatch, hgaps, List.filter_filterMap]
  refine List.filterMap_congr fun r _ => ?_
  cases sent ⟨ip, r.name⟩ <;> rfl

/-- The instant that a poll ends at depends on the last messages alone. -/
theorem Feeding.instant?_eq [Clock] (h : Feeding c ip (lastSent moves) b a) (hip : IpAddress.parse? c.addr = some ip)
    (start timeout : Duration) : a.poller.instant? b start timeout = wakening? c moves start timeout := by
  simp only [Poller.instant?, wakening?, sentFor?_eq hip, h.ready_eq_nil_iff]

/-! ## Two runs -/

/-- Two runs are in step for a service: but for their gates the buses feed the aggregators, and the trackers know the
same of the service. -/
structure InStep (c : Tracker.Config) (ip : IpAddress) (s : Service) (moves moves' : List Move) (b b' : Bus)
    (a a' : Aggregator) : Prop where
  feeding : Feeding c ip (lastSent moves) b.ungated a
  feeding' : Feeding c ip (lastSent moves') b'.ungated a'
  alike : a.tracker.Alike s a'.tracker

theorem foreign_send (a : Aggregator) (p : Publisher) (m : Message) : (Move.act (.send p m)).Foreign a :=
  ⟨trivial, fun _ _ heq => by cases heq⟩

theorem foreign_update (a : Aggregator) (start timeout : Duration) : (Move.update start timeout).Foreign a := trivial

/-- A send leaves the aggregator alone, and the bus goes on feeding it. -/
theorem feeding_send [Clock] {p : Publisher} {m : Message} (h : Feeding c ip (lastSent moves) b.ungated a)
    (hstep : step (b, a) (.act (.send p m)) = some (b₁, a₁)) :
    Feeding c ip (lastSent (moves ++ [.act (.send p m)])) b₁.ungated a₁ ∧ a₁ = a := by
  have hfeeding := (feeding_step h (foreign_send a p m) (step_ungated trivial hstep)).1
  cases hstep
  exact ⟨hfeeding, rfl⟩

namespace InStep

variable [Clock]

/-- A send in the first run. -/
theorem left {p : Publisher} {m : Message} (h : InStep c ip s moves moves' b b' a a')
    (hstep : step (b, a) (.act (.send p m)) = some (b₁, a₁)) :
    InStep c ip s (moves ++ [.act (.send p m)]) moves' b₁ b' a₁ a' := by
  obtain ⟨hfeeding, rfl⟩ := feeding_send h.feeding hstep
  exact ⟨hfeeding, h.feeding', h.alike⟩

/-- A send in the second run. -/
theorem right {p : Publisher} {m : Message} (h : InStep c ip s moves moves' b b' a a')
    (hstep : step (b', a') (.act (.send p m)) = some (b₁', a₁')) :
    InStep c ip s moves (moves' ++ [.act (.send p m)]) b b₁' a a₁' := by
  obtain ⟨hfeeding, rfl⟩ := feeding_send h.feeding' hstep
  exact ⟨h.feeding, hfeeding, h.alike⟩

/-- An update in both runs: the same events of the service are taken in at the same instant. -/
theorem update (h : InStep c ip s moves moves' b b' a a') (hip : IpAddress.parse? c.addr = some ip)
    (hevents : ∀ r ∈ c.services, (sentFor? c moves r).bind (eventOf? s) = (sentFor? c moves' r).bind (eventOf? s))
    (hclock : wakening? c moves start timeout = wakening? c moves' start' timeout')
    (hstep : step (b, a) (.update start timeout) = some (b₁, a₁))
    (hstep' : step (b', a') (.update start' timeout') = some (b₁', a₁')) :
    InStep c ip s (moves ++ [.update start timeout]) (moves' ++ [.update start' timeout']) b₁ b₁' a₁ a₁' := by
  have hfree : step (b.ungated, a) (.update start timeout) = some (b₁.ungated, a₁) := step_ungated trivial hstep
  have hfree' : step (b'.ungated, a') (.update start' timeout') = some (b₁'.ungated, a₁') :=
    step_ungated trivial hstep'
  -- The batches may differ; what is taken from them for the service does not.
  have hsame : eventsOf s (sentBatch c ip (lastSent moves)) = eventsOf s (sentBatch c ip (lastSent moves')) := by
    rw [eventsOf_sentBatch, eventsOf_sentBatch]
    refine List.filterMap_congr fun r hr => ?_
    rw [← sentFor?_eq hip, ← sentFor?_eq hip]
    exact hevents r (c.readOrder_perm.mem_iff.mp hr)
  constructor
  case feeding => exact (feeding_step h.feeding (foreign_update a start timeout) hfree).1
  case feeding' => exact (feeding_step h.feeding' (foreign_update a' start' timeout') hfree').1
  case alike =>
    obtain ⟨now, tracker, hnow, htick, -, rfl⟩ := h.feeding.tick_of_step hfree
    obtain ⟨now', tracker', hnow', htick', -, rfl⟩ := h.feeding'.tick_of_step hfree'
    rw [h.feeding.instant?_eq hip] at hnow
    rw [h.feeding'.instant?_eq hip, ← hclock, hnow] at hnow'
    cases hnow'
    exact h.alike.tick hsame htick htick'

end InStep

/-- Two runs of an aggregator that has just opened are in step for a service for which they agree. -/
theorem inStep_of_steps [Clock] (hagree : AgreeFor c s moves moves') (hip : IpAddress.parse? c.addr = some ip)
    (h : Feeding c ip (fun _ => none) b.ungated a) (htracker : a.tracker = Tracker.ofConfig c) (hs : s ∈ c.services)
    (hsteps : steps moves b a = some (b₁, a₁)) (hsteps' : steps moves' b a = some (b₁', a₁')) :
    InStep c ip s moves moves' b₁ b₁' a₁ a₁' := by
  -- The induction takes off the last move of a run, or the last update of both.
  induction hagree generalizing b₁ a₁ b₁' a₁' with
  | nil =>
    cases hsteps
    cases hsteps'
    constructor
    case feeding => exact h
    case feeding' => exact h
    case alike =>
      rw [htracker]
      exact Tracker.alike_ofConfig hs hs ⟨Iff.rfl, Iff.rfl, Iff.rfl, Iff.rfl⟩
  | left _ p m ih =>
    obtain ⟨b₂, a₂, hbefore, hstep⟩ := exists_step_of_steps_concat hsteps
    exact (ih hbefore hsteps').left hstep
  | right _ p m ih =>
    obtain ⟨b₂, a₂, hbefore, hstep⟩ := exists_step_of_steps_concat hsteps'
    exact (ih hsteps hbefore).right hstep
  | update _ hevents hclock ih =>
    obtain ⟨b₂, a₂, hbefore, hstep⟩ := exists_step_of_steps_concat hsteps
    obtain ⟨b₂', a₂', hbefore', hstep'⟩ := exists_step_of_steps_concat hsteps'
    exact (ih hbefore hbefore').update hip hevents hclock hstep hstep'

/-! ## Bytes that vary -/

/-- Bytes on an endpoint that is not the service's, which are the same event of it or none of its events if the
endpoint is that of another tracked service. -/
def Indistinct (c : Tracker.Config) (s : Service) (p : Publisher) (m m' : Message) : Prop :=
  SentElsewhere s p m m' ∧ ∀ r ∈ c.services, p.endpoint = r.name → eventOf? s m = eventOf? s m'

/-- What waits in two runs is the same as far as a service is concerned: there is a message in both or in none, and
the same event of the service. -/
structure SameFor (s : Service) (m m' : Option Message) : Prop where
  none_iff : m = none ↔ m' = none
  event : m.bind (eventOf? s) = m'.bind (eventOf? s)

namespace SameFor

theorem refl (s : Service) (m : Option Message) : SameFor s m m := ⟨Iff.rfl, rfl⟩

/-- What is sent takes the place of what waited. -/
theorem or {m m' n n' : Option Message} (hm : SameFor s m m') (hn : SameFor s n n') :
    SameFor s (m.or n) (m'.or n') := by
  cases m with
  | none =>
    rw [hm.none_iff.mp rfl]
    exact hn
  | some bytes =>
    cases m' with
    | none => cases hm.none_iff.mpr rfl
    | some bytes' => exact hm

end SameFor

/-- A move that varies where it may sends the same, as far as the service is concerned, on the channel of every tracked
service. -/
theorem Move.Varies.sameFor {r : Service} (h : Move.Varies (Indistinct c s) move move') (hr : r ∈ c.services)
    (ip : IpAddress) : SameFor s (move.sentOn ⟨ip, r.name⟩) (move'.sentOn ⟨ip, r.name⟩) := by
  cases h with
  | update | same => exact .refl s _
  | vary h =>
    simp only [Move.sentOn, Bus.Action.sentOn]
    -- Only a send on the channel at hand counts, and then the endpoint is that of a tracked service.
    split_ifs with hch
    · refine ⟨by simp, ?_⟩
      rw [Option.bind_some, Option.bind_some]
      exact h.2 r hr (congrArg Channel.endpoint hch).symm
    · exact .refl s none

/-- One move more, as far as the service is concerned. -/
theorem Move.Varies.sameFor_lastSent {r : Service} (h : Move.Varies (Indistinct c s) move move')
    (hr : r ∈ c.services) (ip : IpAddress)
    (hsame : SameFor s (lastSent earlier ⟨ip, r.name⟩) (lastSent earlier' ⟨ip, r.name⟩)) :
    SameFor s (lastSent (earlier ++ [move]) ⟨ip, r.name⟩) (lastSent (earlier' ++ [move']) ⟨ip, r.name⟩) := by
  have hsent := h.sameFor hr ip
  cases h with
  | update start timeout =>
    rw [lastSent_update, lastSent_update]
    exact .refl s none
  | same | vary =>
    rw [lastSent_act, lastSent_act]
    exact hsent.or hsame

/-- Runs agree with one move more. -/
theorem AgreeFor.concat [Clock] (h : AgreeFor c s earlier earlier') (hmove : Move.Varies (Indistinct c s) move move')
    (hsame : ∀ r ∈ c.services, SameFor s (sentFor? c earlier r) (sentFor? c earlier' r)) :
    AgreeFor c s (earlier ++ [move]) (earlier' ++ [move']) := by
  cases hmove with
  | same p m => exact (h.left p m).right p m
  | vary => exact (h.left _ _).right _ _
  | update start timeout =>
    have hsilent : (∀ r ∈ c.polled, sentFor? c earlier r = none) ↔ ∀ r ∈ c.polled, sentFor? c earlier' r = none :=
      forall₂_congr fun r hr => (hsame r (List.mem_of_mem_filter hr)).none_iff
    refine h.update (fun r hr => (hsame r hr).event) ?_
    simp only [wakening?, hsilent]

/-- Runs with the same moves but for bytes that are indistinct for a service agree for it. -/
theorem agreeFor_of_varies [Clock] (hmoves : List.Forall₂ (Move.Varies (Indistinct c s)) moves moves') :
    AgreeFor c s moves moves' := by
  -- The moves that lie behind grow by the first one of each step of the induction.
  suffices hgrow : ∀ earlier earlier', AgreeFor c s earlier earlier' →
      (∀ r ∈ c.services, ∀ ip, SameFor s (lastSent earlier ⟨ip, r.name⟩) (lastSent earlier' ⟨ip, r.name⟩)) →
      AgreeFor c s (earlier ++ moves) (earlier' ++ moves') from
    hgrow [] [] .nil fun r _ ip => .refl s _
  induction hmoves with
  | nil =>
    intro earlier earlier' h _
    rwa [List.append_nil, List.append_nil]
  | cons hmove _ ih =>
    intro earlier earlier' h hsame
    rw [List.append_cons, List.append_cons earlier']
    refine ih _ _ (h.concat hmove fun r hr => ?_) fun r hr ip => hmove.sameFor_lastSent hr ip (hsame r hr ip)
    rw [sentFor?, sentFor?]
    cases IpAddress.parse? c.addr with
    | none => exact .refl s none
    | some ip => exact hsame r hr ip

/-! ## Intervals -/

/-- A tick with no more than one message of a service adds no more than one interval to its history. -/
theorem history_of_advance {p : Tracker.Policy} {st st' : Status} {now : Duration} {frame : Int}
    {batch : List (Option Event)} (hevents : (eventsOf s batch).length ≤ 1)
    (h : p.advance s st now frame batch = .ok st') :
    st'.history = st.history ∨ ∃ gap, st'.history = (st.history.push gap).1 := by
  -- Judging leaves the history alone, so only the messages of the service count.
  obtain ⟨alive, freqOk, rfl⟩ := Tracker.judge_eq_ok h
  cases hbatch : eventsOf s batch with
  | nil => exact .inl rfl
  | cons e rest =>
    have hrest : rest = [] := by
      rw [hbatch] at hevents
      simpa using hevents
    refine .inr ⟨now - st.recvTime, ?_⟩
    rw [hrest]
    change (p.record s _ now frame e).history = _
    rw [Tracker.Policy.record_eq]
    rfl

/-- Where no other endpoint has an event of the service, a tick takes in no more than one. -/
theorem length_eventsOf_sentBatch_le_one (hnodup : c.services.Nodup)
    (h : ∀ r ∈ c.services, r ≠ s → (sent ⟨ip, r.name⟩).bind (eventOf? s) = none) :
    (eventsOf s (sentBatch c ip sent)).length ≤ 1 := by
  have honly : ∀ r ∈ c.readOrder, ((sent ⟨ip, r.name⟩).bind (eventOf? s)).isSome = true → (r == s) = true := by
    intro r hr hsome
    by_contra hne
    rw [h r (c.readOrder_perm.mem_iff.mp hr) (by simpa using hne)] at hsome
    cases hsome
  rw [eventsOf_sentBatch, List.length_filterMap_eq_countP]
  calc c.readOrder.countP (fun r => ((sent ⟨ip, r.name⟩).bind (eventOf? s)).isSome)
    _ ≤ c.readOrder.count s := List.countP_mono_left honly
    _ ≤ 1 := List.nodup_iff_count_le_one.mp (c.readOrder_perm.nodup_iff.mpr hnodup) s

/-- Let an aggregator be opened on any bus, and let two runs of sends and updates go on from there. By each update, let
the last bytes sent since the one before on the endpoint of each tracked service be the same event of a service in
both, or none of its events, and let the clock show the same when it goes on. Whatever else is sent, and however
often, the whole status of the service is the same after both. An update that comes next adds one interval to its
history at most, unless the last message on the endpoint of another tracked service is an event of it. -/
theorem status_eq_of_sent_elsewhere [Clock] (actions : List Bus.Action) (c : Tracker.Config) (s : Service)
    (notices : List Notice) (b b₁ b₂ : Bus) (a a₁ a₂ : Aggregator) (moves moves' : List Move)
    (hopen : Aggregator.open (({} : Bus).run actions) c = ⟨b, notices, .ok a⟩) (hs : s ∈ c.services)
    (hagree : AgreeFor c s moves moves')
    (hsteps : steps moves b a = some (b₁, a₁)) (hsteps' : steps moves' b a = some (b₂, a₂)) :
    ∃ st, a₁.tracker.status? s = some st ∧ a₂.tracker.status? s = some st
      ∧ ((∀ r ∈ c.services, r ≠ s → (lastSent moves (.published r.name)).bind (eventOf? s) = none) →
        ∀ start timeout b' a', step (b₁, a₁) (.update start timeout) = some (b', a') →
          ∃ st', a'.tracker.status? s = some st'
            ∧ (st'.history = st.history ∨ ∃ gap, st'.history = (st.history.push gap).1)) := by
  have hbus := Bus.wellFormed_run actions Bus.wellFormed_empty
  obtain ⟨ip, hip, hfeeding, -⟩ := feeding_ungated_of_open hbus hopen
  have hrun : InStep c ip s moves moves' b₁ b₂ a₁ a₂ :=
    inStep_of_steps hagree hip hfeeding (tracker_of_open hopen) hs hsteps hsteps'
  obtain ⟨st, hst, hst'⟩ := hrun.alike.status
  refine ⟨st, hst, hst', fun hothers start timeout b' a' hupdate => ?_⟩
  have hfree : step (b₁.ungated, a₁) (.update start timeout) = some (b'.ungated, a') := step_ungated trivial hupdate
  obtain ⟨now, tracker, -, htick, -, rfl⟩ := hrun.feeding.tick_of_step hfree
  obtain ⟨after, hadvance, hafter⟩ := (Tracker.ticked_of_tick htick).status hst
  refine ⟨after, hafter, history_of_advance ?_ hadvance⟩
  -- What the other readers hold was sent on the endpoints of their services, or there is nothing in them.
  refine length_eventsOf_sentBatch_le_one hrun.feeding.nodup fun r hr hne => ?_
  rcases lastSent_eq_none_or moves ip r.name with hnone | hlocal
  · rw [hnone, Option.bind_none]
  · rw [hlocal]
    exact hothers r hr hne

/-- An event of the first service, nothing on the other endpoint, and an update. -/
def silentMoves : List Move := [.act (.send ⟨"pandaStates"⟩ [8, 1, 5, 0]), .update .zero .zero]

/-- On the other endpoint there is an event of the other service in one run, no event at all in another, and nothing in
a third. -/
theorem status_of_movesWith : ∃ b notices a b₁ b₂ b₃ a₁ a₂ a₃ st,
    Aggregator.open {} neighbourConfig = ⟨b, notices, .ok a⟩
      ∧ steps (movesWith [7, 1, 11]) b a = some (b₁, a₁) ∧ steps (movesWith [7, 2]) b a = some (b₂, a₂)
      ∧ steps silentMoves b a = some (b₃, a₃)
      ∧ a₁.tracker.status? .pandaStates = some st ∧ a₂.tracker.status? .pandaStates = some st
      ∧ a₃.tracker.status? .pandaStates = some st ∧ st.history.len = 1 := by
  have hopened : ∃ b notices a, Aggregator.open {} neighbourConfig = ⟨b, notices, .ok a⟩
      ∧ historyLength? .pandaStates (movesWith [7, 1, 11]) b a = some 1
      ∧ historyLength? .pandaStates (movesWith [7, 2]) b a = some 1
      ∧ historyLength? .pandaStates silentMoves b a = some 1 := by
    rw [Aggregator.open, validate_neighbourConfig]
    exact ⟨_, _, _, rfl, by decide +kernel, by decide +kernel, by decide +kernel⟩
  obtain ⟨b, notices, a, hopen, hlen, hlen', hlen''⟩ := hopened
  obtain ⟨b₁, a₁, st₁, hsteps, hst₁, hone⟩ := exists_of_historyLength? hlen
  obtain ⟨b₂, a₂, _, hsteps', -, -⟩ := exists_of_historyLength? hlen'
  obtain ⟨b₃, a₃, _, hsteps'', -, -⟩ := exists_of_historyLength? hlen''
  have hname : (⟨"userFlag"⟩ : Publisher).endpoint ≠ Service.name .pandaStates := by
    decide
  have hmoves : List.Forall₂ (Move.Varies (Indistinct neighbourConfig .pandaStates)) (movesWith [7, 1, 11])
      (movesWith [7, 2]) :=
    .cons (.same _ _) (.cons (.vary ⟨hname, fun _ _ _ => rfl⟩) (.cons (.update _ _) .nil))
  have hsent : AgreeFor neighbourConfig .pandaStates
      [.act (.send ⟨"pandaStates"⟩ [8, 1, 5, 0]), .act (.send ⟨"userFlag"⟩ [7, 1, 11])]
      [.act (.send ⟨"pandaStates"⟩ [8, 1, 5, 0])] :=
    ((AgreeFor.nil.left _ _).right _ _).left _ _
  have hsilent : AgreeFor neighbourConfig .pandaStates (movesWith [7, 1, 11]) silentMoves :=
    hsent.update (by decide +kernel) (by decide +kernel)
  obtain ⟨st, hst, hst', -⟩ := status_eq_of_sent_elsewhere [] neighbourConfig .pandaStates notices b b₁ b₂ a a₁ a₂ _ _
    hopen (by decide) (agreeFor_of_varies hmoves) hsteps hsteps'
  obtain ⟨_, hst'', hst₃, -⟩ := status_eq_of_sent_elsewhere [] neighbourConfig .pandaStates notices b b₁ b₃ a a₁ a₃ _ _
    hopen (by decide) hsilent hsteps hsteps''
  rw [hst] at hst₁ hst''
  cases hst₁
  cases hst''
  exact ⟨b, notices, a, b₁, b₂, b₃, a₁, a₂, a₃, st₁, hopen, hsteps, hsteps', hsteps'', hst, hst', hst₃, hone⟩

end TopicHealth.Aggregator
