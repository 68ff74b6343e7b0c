import TopicHealth.Proofs.Bus.Drain
import TopicHealth.Proofs.Bus.Gate

/-!
# The newest message

There are two ways to be given the newest message only. A conflating reader forgets the older ones as soon as a newer
one is sent, and then one message is received; a plain reader keeps all of them, and then they are drained and the last
one is decoded. Whatever is sent, and whenever the two are read, they come to the same.

* `Pair.Queues.act`, `Pair.Queues.read`: what both readers hold after an action, and after they are read.
* `Pair.Queues.readings_eq`, `Pair.readings_eq_newestSent`: what is read, from what was sent.
-/

namespace TopicHealth

/-- A subscription that goes through adds a reader with the next number. -/
theorem Bus.of_subscribe {b b' : Bus} {endpoint addr : String} {conflate : Bool} {notices : List Notice}
    {s : Subscriber} (h : b.subscribe endpoint addr conflate = ⟨b', notices, .ok s⟩) :
    ∃ ip, IpAddress.parse? addr = some ip ∧ s.reader = b.serial ∧ b' = b.act (.subscribe endpoint addr conflate)
      ∧ b'.serial = b.serial + 1 := by
  have hbus : b.act (.subscribe endpoint addr conflate) = b' := congrArg Outcome.bus h
  rw [Bus.subscribe] at h
  cases hip : IpAddress.parse? addr with
  | none =>
    rw [hip] at h
    cases h
  | some ip =>
    rw [hip] at h
    cases h
    exact ⟨ip, rfl, rfl, hbus.symm, rfl⟩

/-- Two subscriptions, one right after the other: the second leaves the reader of the first as it is, and both hold
nothing. -/
theorem Bus.of_subscribe_subscribe {b b₁ b₂ : Bus} {endpoint addr : String} {conflate₁ conflate₂ : Bool}
    {notices₁ notices₂ : List Notice} {s₁ s₂ : Subscriber} (hb : b.WellFormed) (hungated : b.gates.active = false)
    (h₁ : b.subscribe endpoint addr conflate₁ = ⟨b₁, notices₁, .ok s₁⟩)
    (h₂ : b₁.subscribe endpoint addr conflate₂ = ⟨b₂, notices₂, .ok s₂⟩) :
    ∃ ip, IpAddress.parse? addr = some ip ∧ b₂.WellFormed ∧ b₂.gates.active = false ∧ s₁.reader ≠ s₂.reader
      ∧ b₂.Queues s₁.reader ⟨ip, endpoint⟩ conflate₁ [] ∧ b₂.Queues s₂.reader ⟨ip, endpoint⟩ conflate₂ [] := by
  obtain ⟨ip, hip, hreader₁, rfl, hserial⟩ := Bus.of_subscribe h₁
  obtain ⟨-, -, hreader₂, rfl, -⟩ := Bus.of_subscribe h₂
  have hb₁ := hb.act (.subscribe endpoint addr conflate₁)
  refine ⟨ip, hip, hb₁.act _, Bus.gates_act trivial (Bus.gates_act trivial hungated), by omega, ?_, ?_⟩
  · rw [hreader₁]
    exact (Bus.queues_subscribe hb endpoint hip conflate₁).act hb₁ (by rintro ⟨⟩)
  · rw [hreader₂]
    exact Bus.queues_subscribe hb₁ endpoint hip conflate₂

/-- A conflating subscriber and a plain one. -/
structure Pair where
  kept : Subscriber
  plain : Subscriber

namespace Pair

/-! ## Reading -/

/-- Both subscribers were made, one right after the other in either order, and maybe given timeouts. -/
inductive Opened (b : Bus) (endpoint addr : String) : Pair → Bus → Prop
  | keptFirst {kept plain : Subscriber} {b₁ b₂ : Bus} {notices₁ notices₂ : List Notice}
    (hkept : b.subscribe endpoint addr true = ⟨b₁, notices₁, .ok kept⟩)
    (hplain : b₁.subscribe endpoint addr false = ⟨b₂, notices₂, .ok plain⟩) (t u : Option Duration) :
    Opened b endpoint addr ⟨{ kept with timeout := t }, { plain with timeout := u }⟩ b₂
  | plainFirst {kept plain : Subscriber} {b₁ b₂ : Bus} {notices₁ notices₂ : List Notice}
    (hplain : b.subscribe endpoint addr false = ⟨b₁, notices₁, .ok plain⟩)
    (hkept : b₁.subscribe endpoint addr true = ⟨b₂, notices₂, .ok kept⟩) (t u : Option Duration) :
    Opened b endpoint addr ⟨{ kept with timeout := t }, { plain with timeout := u }⟩ b₂

/-- What a subscriber reads: an event, nothing, or why the message does not decode. -/
abbrev Result := Except Wire.Fault (Option Event)

/-- Reads both subscribers, each in its way. The loop over the messages of the plain one is followed for so many turns
more than there are messages. -/
def read [Clock] (pair : Pair) (further : Nat) (keptFirst : Bool) : Operation (Result × Result) :=
  if keptFirst then do
    let kept ← pair.kept.receiveOneOrNone
    return (kept, ← pair.plain.newest false further)
  else do
    let plain ← pair.plain.newest false further
    return (← pair.kept.receiveOneOrNone, plain)

/-- Something that others do to the bus, or a read of both subscribers at an instant. -/
inductive Step where
  | act (action : Bus.Action)
  | read (keptFirst : Bool) (now : Duration)

/-- What a read gives of each subscriber, and what it leaves in their queues. -/
structure Reading where
  kept : Result
  plain : Result
  keptLeft : List Message
  plainLeft : List Message

/-- What is read over some steps, if every read ends. -/
def readings [Clock] (pair : Pair) (further : Nat) (b : Bus) : List Step → Option (List Reading)
  | [] => some []
  | .act action :: steps => readings pair further (b.act action) steps
  | .read keptFirst now :: steps => do
    let ((kept, plain), b, _) ← (pair.read further keptFirst).alone? b now
    return ⟨kept, plain, b.queue pair.kept, b.queue pair.plain⟩ :: (← readings pair further b steps)

/-- For each read the last message that was sent on a channel since the read before it, or since the beginning if there
was none. -/
def newestSent (ch : Channel) (last : Option Message) : List Step → List (Option Message)
  | [] => []
  | .act action :: steps => newestSent ch ((action.sentOn ch).or last) steps
  | .read _ _ :: steps => last :: newestSent ch none steps

/-- The action does not concern the subscribers of a pair, and holds no receive up. -/
def Spares (pair : Pair) (action : Bus.Action) : Prop :=
  action.Ungated ∧ action.reader? ≠ some pair.kept.reader ∧ action.reader? ≠ some pair.plain.reader

variable {pair : Pair} {b b' : Bus} {ch : Channel} {endpoint addr : String} {kept plain : List Message}

/-! ## What both readers hold -/

/-- The subscribers of a pair have readers of their own on a channel, one of each kind, that hold some messages, and
there are no gates in use. -/
structure Queues (pair : Pair) (ch : Channel) (kept plain : List Message) (b : Bus) : Prop where
  wellFormed : b.WellFormed
  ungated : b.gates.active = false
  distinct : pair.kept.reader ≠ pair.plain.reader
  kept : b.Queues pair.kept.reader ch true kept
  plain : b.Queues pair.plain.reader ch false plain

namespace Queues

/-- What others send on the channel takes the place of what the one holds, and is added to what the other does. -/
theorem act (h : pair.Queues ch kept plain b) {action : Bus.Action} (hspares : pair.Spares action) :
    pair.Queues ch ((action.sentOn ch).elim kept fun m => [m]) ((action.sentOn ch).elim plain fun m => plain ++ [m])
      (b.act action) := by
  obtain ⟨hungated, hkept, hplain⟩ := hspares
  constructor
  case wellFormed => exact h.wellFormed.act action
  case ungated => exact Bus.gates_act hungated h.ungated
  case distinct => exact h.distinct
  case kept => exact h.kept.act h.wellFormed hkept
  case plain => exact h.plain.act h.wellFormed hplain

variable [Clock]

/-- The conflating subscriber receives one message. -/
theorem receiveKept (h : pair.Queues ch kept plain b) (now : Duration) :
    ∃ b', pair.kept.receiveOneOrNone b now = .done b' [] (Subscriber.decodeOne kept.head?)
      ∧ pair.Queues ch kept.tail plain b' := by
  refine ⟨(b.take pair.kept).2, ?_, ?_⟩
  · rw [Subscriber.receiveOneOrNone_now _ h.ungated, h.kept.queue_eq]
  · constructor
    case wellFormed => exact h.wellFormed.act (.take pair.kept)
    case ungated => exact h.ungated
    case distinct => exact h.distinct
    case kept => exact h.kept.take
    case plain => exact h.plain.afterTakes_ne h.wellFormed h.distinct 1

/-- The plain subscriber is drained. -/
theorem drainPlain (h : pair.Queues ch kept plain b) (further : Nat) (now : Duration) :
    ∃ b' notices, pair.plain.newest false further b now = .done b' notices (Subscriber.decodeOne plain.getLast?)
      ∧ pair.Queues ch kept [] b' := by
  have hnewest : pair.plain.newest false further b now = _ := pair.plain.newest_now h.ungated further
  -- One take more than there are messages leaves none.
  have hnone : plain.drop (plain.length + 1) = [] := List.drop_eq_nil_of_le (Nat.le_succ _)
  rw [h.plain.queue_eq] at hnewest
  refine ⟨_, _, hnewest, ?_⟩
  constructor
  case wellFormed => exact h.wellFormed.afterTakes _ _
  case ungated =>
    rw [Bus.gates_afterTakes]
    exact h.ungated
  case distinct => exact h.distinct
  case kept => exact h.kept.afterTakes_ne h.wellFormed h.distinct.symm _
  case plain =>
    rw [← hnone]
    exact h.plain.afterTakes _

/-- In whichever order the two are read, each gives what it holds last, and they hold nothing then. -/
theorem read {unread : List Message} (h : pair.Queues ch unread.getLast?.toList unread b) (further : Nat)
    (keptFirst : Bool) (now : Duration) :
    ∃ b' notices, pair.read further keptFirst b now =
        .done b' notices (Subscriber.decodeOne unread.getLast?, Subscriber.decodeOne unread.getLast?)
      ∧ pair.Queues ch [] [] b' := by
  -- The one holds the newest message only, so what it gives first is what it holds last.
  have hhead : unread.getLast?.toList.head? = unread.getLast? := by
    cases unread.getLast? <;> rfl
  have htail : unread.getLast?.toList.tail = [] := by
    cases unread.getLast? <;> rfl
  cases keptFirst with
  | true =>
    obtain ⟨b₁, hkept, h₁⟩ := h.receiveKept now
    obtain ⟨b₂, notices, hplain, h₂⟩ := h₁.drainPlain further now
    rw [hhead] at hkept
    rw [htail] at h₂
    refine ⟨b₂, notices ++ [], ?_, h₂⟩
    rw [Pair.read, if_pos rfl, Operation.bind_of_done_nil hkept]
    exact Operation.bind_of_done hplain
  | false =>
    obtain ⟨b₁, notices, hplain, h₁⟩ := h.drainPlain further now
    obtain ⟨b₂, hkept, h₂⟩ := h₁.receiveKept now
    rw [hhead] at hkept
    rw [htail] at h₂
    have hrest : ∀ result : Result, (pair.kept.receiveOneOrNone >>= fun kept => pure (kept, result)) b₁ now =
        .done b₂ [] (Subscriber.decodeOne unread.getLast?, result) :=
      fun result => Operation.bind_of_done_nil hkept
    refine ⟨b₂, notices ++ [], ?_, h₂⟩
    rw [Pair.read, if_neg Bool.false_ne_true, Operation.bind_of_done hplain]
    exact congrArg (Call.after notices) (hrest _)

end Queues

/-! ## What is read -/

/-- Subscribers that were just made hold nothing. -/
theorem queues_of_opened (hb : b.WellFormed) (hungated : b.gates.active = false)
    (hopened : Opened b endpoint addr pair b') :
    ∃ ip, IpAddress.parse? addr = some ip ∧ pair.Queues ⟨ip, endpoint⟩ [] [] b' := by
  cases hopened with
  | keptFirst hkept hplain t u =>
    obtain ⟨ip, hip, hb', hungated', hne, hqueues, hqueues'⟩ := Bus.of_subscribe_subscribe hb hungated hkept hplain
    exact ⟨ip, hip, hb', hungated', hne, hqueues, hqueues'⟩
  | plainFirst hplain hkept t u =>
    obtain ⟨ip, hip, hb', hungated', hne, hqueues, hqueues'⟩ := Bus.of_subscribe_subscribe hb hungated hplain hkept
    exact ⟨ip, hip, hb', hungated', hne.symm, hqueues', hqueues⟩

/-- The reads of a pair of which the one holds the newest and the other all of some messages. -/
theorem Queues.readings_eq [Clock] {unread : List Message} (h : pair.Queues ch unread.getLast?.toList unread b)
    (further : Nat) (steps : List Step) (hspares : ∀ action, Step.act action ∈ steps → pair.Spares action) :
    pair.readings further b steps = some ((newestSent ch unread.getLast? steps).map fun m =>
      ⟨Subscriber.decodeOne m, Subscriber.decodeOne m, [], []⟩) := by
  induction steps generalizing b unread with
  | nil => rfl
  | cons step steps ih =>
    have hrest : ∀ action, Step.act action ∈ steps → pair.Spares action :=
      fun action haction => hspares action (List.mem_cons_of_mem _ haction)
    cases step with
    | act action =>
      have hact := h.act (hspares action List.mem_cons_self)
      rw [readings, newestSent]
      cases hsent : action.sentOn ch with
      | none =>
        rw [hsent] at hact
        exact ih hact hrest
      | some m =>
        rw [hsent] at hact
        -- A message on the channel is the newest from here on, whatever waited before it.
        have hnewest : (unread ++ [m]).getLast? = some m := List.getLast?_concat
        have hunread : pair.Queues ch (unread ++ [m]).getLast?.toList (unread ++ [m]) (b.act action) := by
          rw [hnewest]
          exact hact
        have hsteps := ih hunread hrest
        rw [hnewest] at hsteps
        exact hsteps
    | read keptFirst now =>
      obtain ⟨b', notices, hread, hnone⟩ := h.read further keptFirst now
      -- After a read both hold nothing, which is the invariant with nothing unread.
      have hunread : pair.Queues ch ([] : List Message).getLast?.toList [] b' := hnone
      have hsteps := ih hunread hrest
      have halone : (pair.read further keptFirst).alone? b now =
          some ((Subscriber.decodeOne unread.getLast?, Subscriber.decodeOne unread.getLast?), b', now) := by
        rw [Operation.alone?, hread]
        rfl
      rw [readings, halone]
      change (pair.readings further b' steps).bind _ = _
      rw [hsteps, hnone.kept.queue_eq, hnone.plain.queue_eq]
      rfl

/-- On any bus whose gates are out of use let a conflating and a plain subscriber of an endpoint be made one right
after the other. Whatever is sent from then on, and whatever others do, wherever the two are read, the one by taking
a message and the other by draining, they give the same: nothing if nothing was sent on their channel since the read
before, and otherwise what the last message sent decodes to, or why it does not, whether or not the ones before it
decode. After every read nothing is left in either queue. It makes no difference for how many turns more than there are
messages the drain is followed. -/
theorem readings_eq_newestSent [Clock] (earlier : List Bus.Action) (endpoint addr : String) (pair : Pair) (b : Bus)
    (further : Nat) (steps : List Step) (hungated : (({} : Bus).run earlier).gates.active = false)
    (hopened : Opened (({} : Bus).run earlier) endpoint addr pair b)
    (hspares : ∀ action, Step.act action ∈ steps → pair.Spares action) :
    ∃ ip, IpAddress.parse? addr = some ip
      ∧ pair.readings further b steps = some ((newestSent ⟨ip, endpoint⟩ none steps).map fun m =>
        ⟨Subscriber.decodeOne m, Subscriber.decodeOne m, [], []⟩) := by
  have hb : (({} : Bus).run earlier).WellFormed := Bus.wellFormed_run earlier Bus.wellFormed_empty
  obtain ⟨ip, hip, hqueues⟩ := queues_of_opened hb hungated hopened
  have hunread : pair.Queues ⟨ip, endpoint⟩ ([] : List Message).getLast?.toList [] b := hqueues
  exact ⟨ip, hip, hunread.readings_eq further steps hspares⟩

/-- Messages that decode and others that do not, each of them once as the last before a read. -/
def mixedSteps : List Step :=
  let p : Publisher := ⟨"userFlag"⟩
  [.act (.send p [7, 2]), .act (.send p [5, 1, 11]), .read true .zero, .act (.send p [5, 1, 11]),
    .act (.send p [7, 2]), .read false .zero, .read true .zero]

/-- Both give the event, then what is wrong with the other message, and then nothing. -/
theorem readings_of_mixedSteps : ∃ pair b,
    Opened (({} : Bus).run [.openPublisher "userFlag"]) "userFlag" "127.0.0.1" pair b
      ∧ pair.readings 0 b mixedSteps = some [⟨.ok (some ⟨5, true, .userFlag⟩), .ok (some ⟨5, true, .userFlag⟩), [], []⟩,
        ⟨.error (.badFlag 2), .error (.badFlag 2), [], []⟩, ⟨.ok none, .ok none, [], []⟩] := by
  let opened := (({} : Bus).run [.openPublisher "userFlag"]).subscribe "userFlag" "127.0.0.1" true
  let both := opened.bus.subscribe "userFlag" "127.0.0.1" false
  have hkept : opened = ⟨opened.bus, opened.notices, .ok { reader := 0, endpoint := "userFlag" }⟩ := rfl
  have hplain : both = ⟨both.bus, both.notices, .ok { reader := 1, endpoint := "userFlag" }⟩ := rfl
  have hopened := Opened.keptFirst hkept hplain none none
  have hspares : ∀ action, Step.act action ∈ mixedSteps →
      Spares ⟨{ reader := 0, endpoint := "userFlag" }, { reader := 1, endpoint := "userFlag" }⟩ action := by
    intro action haction
    simp only [mixedSteps, List.mem_cons, List.not_mem_nil, Step.act.injEq, reduceCtorEq, false_or, or_false] at haction
    rcases haction with rfl | rfl | rfl | rfl <;> exact ⟨trivial, by decide, by decide⟩
  obtain ⟨ip, hip, hreadings⟩ := readings_eq_newestSent [.openPublisher "userFlag"] "userFlag" "127.0.0.1" _ _
    0 mixedSteps rfl hopened hspares
  have hlocal : IpAddress.parse? "127.0.0.1" = some localhost := by decide +kernel
  cases hlocal.symm.trans hip
  exact ⟨_, _, hopened, hreadings⟩

end Pair

end TopicHealth
