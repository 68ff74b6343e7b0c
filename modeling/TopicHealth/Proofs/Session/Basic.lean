import TopicHealth.Bus.Run
import TopicHealth.Node.Basic
import TopicHealth.Proofs.Aggregator.Holders

/-!
# Sessions

A session is one party that uses a bus for itself. It holds what it has made and not yet dropped: publishers alone or
in sets, subscribers, pollers, aggregators and nodes. A move makes something, uses what stands at a place or drops it,
and is answered; a call that waits has nobody to wait for but the clock.

* `Session.perform`: what a move does, and its answer.
* `Session.perm_all_put`: what is held after the holding at a place was changed.
-/

namespace TopicHealth

/-! ## Holdings -/

/-- Something that was made on a bus. -/
inductive Holding where
  | publisher (p : Publisher)
  | publisherSet (ps : PublisherSet)
  | subscriber (s : Subscriber)
  | poller (p : Poller)
  | aggregator (a : Aggregator)
  | node (n : Node)

namespace Holding

/-- The subscribers that belong to it, clones among them. -/
def subscribers : Holding → List Subscriber
  | publisher _ | publisherSet _ => []
  | subscriber s => [s]
  | poller p => p.subscribers
  | aggregator a => a.clones
  | node n => n.aggregator.clones

/-- The publishers that belong to it. -/
def publishers : Holding → List Publisher
  | publisher p => [p]
  | publisherSet ps => ps.publishers.map (·.2)
  | node n => n.publishers.publishers.map (·.2)
  | subscriber _ | poller _ | aggregator _ => []

/-- Drops it. -/
def drop (b : Bus) : Holding → Bus
  | publisher p => b.closePublisher p
  | publisherSet ps => ps.close b
  | subscriber s => b.release s
  | poller p => p.close b
  | aggregator a => a.close b
  | node n => n.close b

/-- Dropping something drops the subscribers and the publishers that belong to it. -/
theorem drop_eq (h : Holding) (b : Bus) :
    h.drop b = h.publishers.foldl Bus.closePublisher (h.subscribers.foldl Bus.release b) := by
  cases h with
  | publisher p => rfl
  | publisherSet ps =>
    rw [publishers, List.foldl_map]
    rfl
  | subscriber s => rfl
  | poller p => rfl
  | aggregator a => exact a.close_eq b
  | node n =>
    rw [drop, Node.close, n.aggregator.close_eq, publishers, List.foldl_map]
    rfl

end Holding

/-! ## Sessions -/

/-- A bus, and what its user holds. -/
structure Session where
  bus : Bus := {}
  /-- Everything that was made, in order; none once it was dropped. -/
  holdings : List (Option Holding) := []

namespace Session

/-- What a user does. -/
inductive Move where
  | openPublisher (endpoint : String)
  | openSet (services : List Service)
  | subscribe (endpoint addr : String) (conflate : Bool)
  | openPoller
  | openAggregator (c : Tracker.Config)
  | openNode (c : Node.Config)
  /-- Clones the subscriber at a place. -/
  | clone (place : Nat)
  | setTimeout (place : Nat) (timeout : Option Duration)
  /-- Registers a subscriber with a poller. -/
  | register (poller subscriber : Nat)
  | drop (place : Nat)
  /-- Sends on a publisher, or on that of a service in a set. -/
  | send (place : Nat) (service : Option Service) (m : Message)
  | readersUpdated (place : Nat) (service : Option Service)
  | awaitReaders (place : Nat) (service : Service) (timeout : Duration) (looks : Nat)
    (keep : Duration → Except Breakdown ReaderWait) (start : Duration)
  | pending (place : Nat)
  | receive (place : Nat) (nonBlocking : Bool) (start : Duration)
  | poll (place : Nat) (timeout start : Duration)
  | update (place : Nat) (timeout start : Duration)
  | setGates (gates : Gates)
  | setSignals (signals : List Bool)

/-- Why a move could not be made. -/
inductive Fault where
  | bus (fault : BusFault)
  | publisherSet (fault : PublisherSet.OpenFault)
  | aggregator (fault : Aggregator.OpenFault)
  | node (fault : Node.OpenFault)
  | notPublished (fault : PublisherSet.NotPublished)
deriving DecidableEq, Repr

/-- How a move ended. -/
inductive Reply where
  /-- Nothing that the move could use stands at its place. -/
  | absent
  | done
  | refused (fault : Fault)
  | verdict (yes : Option Bool)
  | count (n : Nat)
  | message (m : Option Message)
  | ready (endpoints : List String)
  | tracked (tracker : Tracker)
  | broken (reason : Breakdown)
  | stuck

/-- What the user comes to know of a move. -/
structure Answer where
  reply : Reply
  notices : List Notice := []
  /-- When a call ended that may wait. -/
  ended : Option Duration := none

section Moves

variable [Clock] (σ : Session)

/-- What stands at a place. -/
def get? (place : Nat) : Option Holding := σ.holdings[place]?.join

def subscriber? (place : Nat) : Option Subscriber :=
  match σ.get? place with
  | some (.subscriber s) => some s
  | _ => none

def poller? (place : Nat) : Option Poller :=
  match σ.get? place with
  | some (.poller p) => some p
  | _ => none

def aggregator? (place : Nat) : Option Aggregator :=
  match σ.get? place with
  | some (.aggregator a) => some a
  | _ => none

def publisherSet? (place : Nat) : Option PublisherSet :=
  match σ.get? place with
  | some (.publisherSet ps) => some ps
  | _ => none

/-- The publisher at a place, or that of a service in the set there. -/
def publisher? (place : Nat) (service : Option Service) : Option (Except PublisherSet.NotPublished Publisher) :=
  match σ.get? place, service with
  | some (.publisher p), none => some (.ok p)
  | some (.publisherSet ps), some s => some (ps.publisher s)
  | _, _ => none

/-- Everything of a kind that belongs to what is held. -/
def all {α : Type} (f : Holding → List α) : List α := σ.holdings.flatMap fun h => h.elim [] f

/-- The subscribers that are held. -/
def subscribers : List Subscriber := σ.all Holding.subscribers

/-- The publishers that are held. -/
def publishers : List Publisher := σ.all Holding.publishers

/-! ## Moves -/

/-- Changes the holding at a place. -/
def put (place : Nat) (h : Option Holding) (b : Bus) : Session := ⟨b, σ.holdings.set place h⟩

/-- Holds clones of some subscribers. -/
def share (subs : List Subscriber) : Session :=
  ⟨subs.foldl Bus.retain σ.bus, σ.holdings ++ subs.map (some ∘ .subscriber)⟩

/-- Holds what was made, if it could be. -/
def make {ε α : Type} (o : Outcome ε α) (explain : ε → Fault) (hold : α → Holding) : Session × Answer :=
  match o.result with
  | .ok made => (⟨o.bus, σ.holdings ++ [some (hold made)]⟩, ⟨.done, o.notices, none⟩)
  | .error fault => ({ σ with bus := o.bus }, ⟨.refused (explain fault), o.notices, none⟩)

/-- Runs an operation that nobody disturbs, and goes on with its value if it ends. What it has done to the bus by the
time it breaks down or is stuck remains. -/
def call {α : Type} (op : Operation α) (start : Duration) (next : α → Session → Session) (reply : α → Reply) :
    Session × Answer :=
  let r := (op σ.bus start).run start []
  let after := { σ with bus := r.bus }
  match r.ending with
  | .done value => (next value after, ⟨reply value, r.notices, some r.now⟩)
  | .broken reason => (after, ⟨.broken reason, r.notices, some r.now⟩)
  | .stuck => (after, ⟨.stuck, r.notices, some r.now⟩)

/-- How a wait for readers ended. -/
def replyOfWait : Except PublisherSet.NotPublished (Option Bool) → Reply
  | .ok result => .verdict result
  | .error fault => .refused (.notPublished fault)

/-- Does something with what was found. -/
def using? {α : Type} (found : Option α) (act : α → Session × Answer) : Session × Answer :=
  found.elim (σ, { reply := .absent }) act

/-- Does something with the publisher that was asked for. -/
def usingPublisher (place : Nat) (service : Option Service) (act : Publisher → Session × Answer) : Session × Answer :=
  σ.using? (σ.publisher? place service) fun
    | .ok p => act p
    | .error fault => (σ, { reply := .refused (.notPublished fault) })

/-- What a move does, and how it is answered. -/
def perform : Move → Session × Answer
  | .openPublisher endpoint => σ.make (σ.bus.openPublisher endpoint) .bus .publisher
  | .openSet services => σ.make (PublisherSet.open σ.bus services) .publisherSet .publisherSet
  | .subscribe endpoint addr conflate => σ.make (σ.bus.subscribe endpoint addr conflate) .bus .subscriber
  | .openPoller => ({ σ with holdings := σ.holdings ++ [some (.poller {})] }, { reply := .done })
  | .openAggregator c => σ.make (Aggregator.open σ.bus c) .aggregator .aggregator
  | .openNode c => σ.make (Node.open σ.bus c) .node .node
  | .clone place => σ.using? (σ.subscriber? place) fun s => (σ.share [s], { reply := .done })
  | .setTimeout place timeout =>
    σ.using? (σ.subscriber? place) fun s =>
      (σ.put place (some (.subscriber { s with timeout })) σ.bus, { reply := .done })
  | .register poller subscriber =>
    σ.using? (σ.poller? poller) fun p => σ.using? (σ.subscriber? subscriber) fun s =>
      (σ.put poller (some (.poller (p.register σ.bus s).2)) (p.register σ.bus s).1, { reply := .done })
  | .drop place => σ.using? (σ.get? place) fun h => (σ.put place none (h.drop σ.bus), { reply := .done })
  | .send place service m =>
    σ.usingPublisher place service fun p => ({ σ with bus := σ.bus.send p m }, { reply := .done })
  | .readersUpdated place service =>
    σ.usingPublisher place service fun p => (σ, { reply := .verdict (some (σ.bus.allReadersUpdated p)) })
  | .awaitReaders place service timeout looks keep start =>
    σ.using? (σ.publisherSet? place) fun ps =>
      σ.call (ps.awaitReaders service timeout looks keep) start (fun _ τ => τ) replyOfWait
  | .pending place => σ.using? (σ.subscriber? place) fun s => (σ, { reply := .count (σ.bus.pending s) })
  | .receive place nonBlocking start =>
    σ.using? (σ.subscriber? place) fun s => σ.call (s.receive nonBlocking) start (fun _ τ => τ) .message
  | .poll place timeout start =>
    -- A poll gives clones of the subscribers that have messages.
    σ.using? (σ.poller? place) fun p =>
      σ.call (p.poll timeout) start (fun ready τ => τ.share ready) fun ready => .ready (ready.map Subscriber.endpoint)
  | .update place timeout start =>
    σ.using? (σ.aggregator? place) fun a =>
      σ.call (a.update timeout) start (fun a τ => τ.put place (some (.aggregator a)) τ.bus) fun a =>
        .tracked a.tracker
  | .setGates gates => ({ σ with bus := { σ.bus with gates } }, { reply := .done })
  | .setSignals signals => ({ σ with bus := { σ.bus with signals } }, { reply := .done })

/-- The session after a move. -/
def step (move : Move) : Session := (σ.perform move).1

/-- The reply to a move. -/
def reply (move : Move) : Reply := (σ.perform move).2.reply

/-- The session after some moves. -/
def run (moves : List Move) : Session := moves.foldl step σ

/-- The session after some moves of a user who begins with an empty bus. -/
def after (moves : List Move) : Session := run {} moves

/-- What holds at the beginning and is kept by every move holds after any moves. -/
theorem after_induction {P : Session → Prop} (hinit : P {}) (hstep : ∀ σ move, P σ → P (σ.step move))
    (moves : List Move) : P (after moves) := by
  suffices hrun : ∀ σ, P σ → P (run σ moves) from hrun {} hinit
  induction moves with
  | nil =>
    intro σ hσ
    exact hσ
  | cons move moves ih =>
    intro σ hσ
    exact ih (σ.step move) (hstep σ move hσ)

theorem run_append (earlier later : List Move) : σ.run (earlier ++ later) = (σ.run earlier).run later :=
  List.foldl_append

theorem after_concat (moves : List Move) (move : Move) : after (moves ++ [move]) = (after moves).step move :=
  run_append {} moves [move]

end Moves

/-! ## What is held -/

variable {σ : Session} {α β ε : Type} {f : Holding → List α} {place : Nat} {h : Holding}

theorem get?_eq_some_iff : σ.get? place = some h ↔ σ.holdings[place]? = some (some h) := by
  rw [get?, Option.join_eq_some_iff]

theorem subscriber?_eq_some_iff {s : Subscriber} :
    σ.subscriber? place = some s ↔ σ.get? place = some (.subscriber s) := by
  rw [subscriber?]
  split <;> simp_all

theorem poller?_eq_some_iff {p : Poller} : σ.poller? place = some p ↔ σ.get? place = some (.poller p) := by
  rw [poller?]
  split <;> simp_all

theorem aggregator?_eq_some_iff {a : Aggregator} :
    σ.aggregator? place = some a ↔ σ.get? place = some (.aggregator a) := by
  rw [aggregator?]
  split <;> simp_all

/-- What is held in all is held at some place. -/
theorem mem_all_iff {a : α} : a ∈ σ.all f ↔ ∃ place h, σ.get? place = some h ∧ a ∈ f h := by
  rw [all, List.mem_flatMap]
  constructor
  · rintro ⟨h, hmem, ha⟩
    obtain ⟨place, hplace⟩ := List.mem_iff_getElem?.mp hmem
    cases h with
    | none => cases ha
    | some h => exact ⟨place, h, get?_eq_some_iff.mpr hplace, ha⟩
  · rintro ⟨place, h, hplace, ha⟩
    exact ⟨some h, List.mem_of_getElem? (get?_eq_some_iff.mp hplace), ha⟩

theorem all_concat (holdings : List (Option Holding)) (b b' : Bus) (h : Holding) :
    (Session.mk b' (holdings ++ [some h])).all f = (Session.mk b holdings).all f ++ f h := by
  simp [all]

/-- To put one thing for another in a list exchanges what the one has for what the other has. -/
theorem perm_flatMap_set {β γ : Type} {l : List β} {i : Nat} {x : β} (g : β → List γ) (hx : l[i]? = some x) (y : β) :
    ((l.set i y).flatMap g ++ g x).Perm (l.flatMap g ++ g y) := by
  induction l generalizing i with
  | nil => cases hx
  | cons z l ih =>
    cases i with
    | zero =>
      cases hx
      rw [List.set_cons_zero, List.flatMap_cons, List.flatMap_cons]
      calc
        List.Perm ((g y ++ l.flatMap g) ++ g x) (g x ++ (g y ++ l.flatMap g)) := List.perm_append_comm
        List.Perm _ (g x ++ (l.flatMap g ++ g y)) := List.perm_append_comm.append_left (g x)
        _ = (g x ++ l.flatMap g) ++ g y := (List.append_assoc _ _ _).symm
    | succ i =>
      rw [List.set_cons_succ, List.flatMap_cons, List.flatMap_cons, List.append_assoc, List.append_assoc]
      exact (ih hx).append_left (g z)

/-- What is held when the holding at a place is changed, and what belonged to it besides, is what was held and what
belongs to the new one. -/
theorem perm_all_put (hplace : σ.get? place = some h) (h' : Option Holding) (b : Bus) :
    ((σ.put place h' b).all f ++ f h).Perm (σ.all f ++ h'.elim [] f) :=
  perm_flatMap_set (fun h => h.elim [] f) (get?_eq_some_iff.mp hplace) h'

/-! ## What moves leave

A property of the session after a move, by the ways the move can go. -/

section Leave

variable {P : Session → Prop}

theorem using?_leaves {found : Option α} {act : α → Session × Answer} (habsent : P σ)
    (hact : ∀ a, found = some a → P (act a).1) : P (σ.using? found act).1 := by
  cases found with
  | none => exact habsent
  | some a => exact hact a rfl

theorem usingPublisher_leaves {service : Option Service} {act : Publisher → Session × Answer} (habsent : P σ)
    (hact : ∀ p, σ.publisher? place service = some (.ok p) → P (act p).1) :
    P (σ.usingPublisher place service act).1 := by
  refine using?_leaves habsent fun found hfound => ?_
  cases found with
  | error fault => exact habsent
  | ok p => exact hact p hfound

theorem make_leaves {o : Outcome ε α} {explain : ε → Fault} {hold : α → Holding}
    (hrefused : ∀ b notices fault, o = ⟨b, notices, .error fault⟩ → P { σ with bus := b })
    (hmade : ∀ b notices a, o = ⟨b, notices, .ok a⟩ → P ⟨b, σ.holdings ++ [some (hold a)]⟩) :
    P (σ.make o explain hold).1 := by
  obtain ⟨b, notices, result⟩ := o
  cases result with
  | error fault => exact hrefused b notices fault rfl
  | ok a => exact hmade b notices a rfl

/-- A fact about sessions is kept by a call if it is where the call breaks down, is stuck, or ends. -/
theorem call_leaves {op : Operation α} {start : Duration} {next : α → Session → Session} {reply : α → Reply}
    (hbroken : P { σ with bus := ((op σ.bus start).run start []).bus })
    (hdone : ∀ value, ((op σ.bus start).run start []).ending = .done value →
      P (next value { σ with bus := ((op σ.bus start).run start []).bus })) :
    P (σ.call op start next reply).1 := by
  rw [call]
  split
  · rename_i value hvalue
    exact hdone value hvalue
  · exact hbroken
  · exact hbroken

end Leave

section Call

variable {op : Operation α} {start : Duration} {next : α → Session → Session} {reply : α → Reply}

theorem call_of_done {value : α} (hdone : ((op σ.bus start).run start []).ending = .done value) :
    σ.call op start next reply =
      let r := (op σ.bus start).run start []
      (next value { σ with bus := r.bus }, ⟨reply value, r.notices, some r.now⟩) := by
  rw [call]
  simp only [hdone]

theorem call_of_broken {reason : Breakdown} (hbroken : ((op σ.bus start).run start []).ending = .broken reason) :
    σ.call op start next reply =
      let r := (op σ.bus start).run start []
      ({ σ with bus := r.bus }, ⟨.broken reason, r.notices, some r.now⟩) := by
  rw [call]
  simp only [hbroken]

theorem call_of_stuck (hstuck : ((op σ.bus start).run start []).ending = .stuck) :
    σ.call op start next reply =
      let r := (op σ.bus start).run start []
      ({ σ with bus := r.bus }, ⟨.stuck, r.notices, some r.now⟩) := by
  rw [call]
  simp only [hstuck]

end Call

end Session

end TopicHealth
