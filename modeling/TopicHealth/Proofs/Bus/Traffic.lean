import TopicHealth.Bus.Basic

/-!
# Traffic of a reader

What a reader has to do with others: messages are sent on its channel, and its subscribers receive. What it holds
follows from that traffic alone.

* `Leads.sent_eq`: a plain reader has passed on what was sent, in order, up to what it holds.
* `Leads.queue_eq_unread`: a conflating reader holds the last message that was sent since the last receive.
* `Leads.received_eq`: which of the messages sent each message received was.
* `Leads.queue_eq_nil_iff`: a reader holds nothing when its newest message was received, or none was sent.
-/

namespace TopicHealth

/-- Something that happens to a reader. -/
inductive Traffic where
  /-- A message is sent on its channel. -/
  | sent (m : Message)
  /-- One of its subscribers receives, and gets a message if there is one. -/
  | received (m : Option Message)
deriving DecidableEq

namespace Traffic

/-! ## Histories -/

def sent? : Traffic → Option Message
  | .sent m => some m
  | .received _ => none

def received? : Traffic → Option Message
  | .sent _ => none
  | .received m => m

/-- The messages that were sent, in order. -/
def allSent (history : List Traffic) : List Message := history.filterMap sent?

/-- The messages that were received, in order. -/
def allReceived (history : List Traffic) : List Message := history.filterMap received?

/-- The last message that was sent since the last receive, or since the beginning if there was none. -/
def unread (history : List Traffic) : Option Message :=
  (history.reverse.takeWhile fun t => t.sent?.isSome).findSome? sent?

/-- For each message received the place that it has among the messages sent. A plain reader passes the messages on one
after another, and a conflating one the last that was sent. -/
def places (conflate : Bool) : List Traffic → (sentBefore takenBefore : Nat) → List Nat
  | [], _, _ => []
  | .sent _ :: rest, before, taken => places conflate rest (before + 1) taken
  | .received none :: rest, before, taken => places conflate rest before taken
  | .received (some _) :: rest, before, taken =>
    (if conflate then before - 1 else taken) :: places conflate rest before (taken + 1)

/-- The newest message was received, or there was none. -/
def UpToDate (conflate : Bool) (history : List Traffic) : Prop :=
  allSent history = [] ∨ (allSent history).length - 1 ∈ places conflate history 0 0

section Concat

variable (history : List Traffic) (m : Message) (o : Option Message)

@[simp] theorem allSent_concat_sent : allSent (history ++ [.sent m]) = allSent history ++ [m] := by
  simp [allSent, sent?]

@[simp] theorem allSent_concat_received : allSent (history ++ [.received o]) = allSent history := by
  simp [allSent, sent?]

@[simp] theorem allReceived_concat_sent : allReceived (history ++ [.sent m]) = allReceived history := by
  simp [allReceived, received?]

@[simp] theorem allReceived_concat_received :
    allReceived (history ++ [.received o]) = allReceived history ++ o.toList := by
  cases o <;> simp [allReceived, received?]

@[simp] theorem unread_concat_sent : unread (history ++ [.sent m]) = some m := by
  simp [unread, sent?, List.findSome?_cons]

@[simp] theorem unread_concat_received : unread (history ++ [.received o]) = none := by
  simp [unread, sent?]

/-- What is sent last is received later, if at all. -/
theorem places_concat_sent (conflate : Bool) (before taken : Nat) :
    places conflate (history ++ [.sent m]) before taken = places conflate history before taken := by
  induction history generalizing before taken with
  | nil => rfl
  | cons t history ih =>
    rcases t with m' | _ | m' <;> simp only [List.cons_append, places, ih]

/-- From a conflating queue comes what was sent last, and from a plain one what comes after those received before. -/
theorem places_concat_received (conflate : Bool) (before taken : Nat) :
    places conflate (history ++ [.received o]) before taken =
      places conflate history before taken ++ (o.map fun _ =>
        if conflate then before + (allSent history).length - 1 else taken + (allReceived history).length).toList := by
  induction history generalizing before taken with
  | nil => cases o <;> rfl
  | cons t history ih =>
    -- The counts at the end are those at the beginning and one more for each message of the history.
    rcases t with m' | _ | m'
    · simp [places, ih, allSent, allReceived, sent?, received?, List.filterMap_cons, Nat.add_assoc, Nat.add_comm 1]
    · simp [places, ih, allSent, allReceived, sent?, received?, List.filterMap_cons]
    · simp [places, ih, allSent, allReceived, sent?, received?, List.filterMap_cons, Nat.add_assoc, Nat.add_comm 1]

end Concat

/-! ## Queues -/

/-- Traffic that leads from one content of a queue to another. -/
inductive Leads (conflate : Bool) (start : List Message) : List Traffic → List Message → Prop
  | nothing : Leads conflate start [] start
  | sent {history queue} (h : Leads conflate start history queue) (m : Message) :
    Leads conflate start (history ++ [.sent m]) (if conflate then [m] else queue ++ [m])
  | received {history queue} (h : Leads conflate start history queue) :
    Leads conflate start (history ++ [.received queue.head?]) queue.tail

namespace Leads

variable {conflate : Bool} {start middle queue : List Message} {earlier later history : List Traffic}

/-- Traffic after traffic leads from the first queue to the last. -/
theorem trans (h : Leads conflate start earlier middle) (hlater : Leads conflate middle later queue) :
    Leads conflate start (earlier ++ later) queue := by
  induction hlater with
  | nothing =>
    rw [List.append_nil]
    exact h
  | sent _ m ih =>
    rw [← List.append_assoc]
    exact ih.sent m
  | received _ ih =>
    rw [← List.append_assoc]
    exact ih.received

/-- A plain reader loses nothing, keeps the order and makes nothing up. -/
theorem sent_eq (h : Leads false start history queue) :
    start ++ allSent history = allReceived history ++ queue := by
  induction h with
  | nothing => simp [allSent, allReceived]
  | sent _ m ih =>
    rw [allSent_concat_sent, allReceived_concat_sent, ← List.append_assoc, ih]
    simp
  | received _ ih =>
    rename_i history queue _
    rw [allSent_concat_received, allReceived_concat_received, ih]
    cases queue <;> simp

/-- A conflating reader holds what was sent last, unless it was received. -/
theorem queue_eq_unread (h : Leads true [] history queue) : queue = (unread history).toList := by
  induction h with
  | nothing => rfl
  | sent _ m ih => simp
  | received _ ih =>
    rename_i history queue _
    rw [unread_concat_received, ih]
    cases unread history <;> rfl

/-- What a conflating reader holds is the newest message. -/
theorem getLast?_of_mem {m : Message} (h : Leads true [] history queue) (hm : m ∈ queue) :
    queue = [m] ∧ (allSent history).getLast? = some m := by
  induction h with
  | nothing => cases hm
  | sent _ m' ih =>
    rw [if_pos rfl, List.mem_singleton] at hm
    rw [hm, allSent_concat_sent]
    exact ⟨rfl, by simp⟩
  | received hqueue ih =>
    rename_i history queue
    obtain ⟨hsingle, -⟩ := ih (List.mem_of_mem_tail hm)
    rw [hsingle] at hm
    cases hm

/-- The next message that a reader passes on. -/
theorem getElem?_next {m : Message} (h : Leads conflate [] history queue) (hm : queue.head? = some m) :
    (allSent history)[if conflate then (allSent history).length - 1 else (allReceived history).length]? = some m := by
  obtain ⟨rest, rfl⟩ := List.head?_eq_some_iff.mp hm
  cases conflate with
  | false =>
    have hsent := h.sent_eq
    rw [List.nil_append] at hsent
    simp [hsent]
  | true =>
    obtain ⟨-, hlast⟩ := h.getLast?_of_mem List.mem_cons_self
    rw [if_pos rfl, ← List.getLast?_eq_getElem?]
    exact hlast

/-- Every message that is received is one that was sent, the one of its place. -/
theorem received_eq (h : Leads conflate [] history queue) :
    (allReceived history).map some = (places conflate history 0 0).map fun place => (allSent history)[place]? := by
  induction h with
  | nothing => rfl
  | sent h m ih =>
    rename_i history queue
    rw [allReceived_concat_sent, places_concat_sent, allSent_concat_sent, ih]
    refine List.map_congr_left fun place hplace => ?_
    -- The places stand for messages, so they are not beyond those that had been sent.
    have hsome : (allSent history)[place]? ∈ (allReceived history).map some := by
      rw [ih]
      exact List.mem_map_of_mem hplace
    obtain ⟨m', -, hm'⟩ := List.mem_map.mp hsome
    obtain ⟨hlt, -⟩ := List.getElem?_eq_some_iff.mp hm'.symm
    exact (List.getElem?_append_left hlt).symm
  | received h ih =>
    rename_i history queue
    rw [allReceived_concat_received, places_concat_received, allSent_concat_received, List.map_append, ih,
      List.map_append]
    congr 1
    cases hhead : queue.head? with
    | none => rfl
    | some m =>
      have hnext := h.getElem?_next hhead
      simpa using hnext.symm

/-- What was received had been sent. -/
theorem place_lt (h : Leads conflate [] history queue) {place : Nat} (hplace : place ∈ places conflate history 0 0) :
    place < (allSent history).length := by
  have hsome : (allSent history)[place]? ∈ (allReceived history).map some := by
    rw [h.received_eq]
    exact List.mem_map_of_mem hplace
  obtain ⟨m, -, hm⟩ := List.mem_map.mp hsome
  exact (List.getElem?_eq_some_iff.mp hm.symm).1

/-- A plain reader passes the messages on in the order of their places. -/
theorem places_eq_range (h : Leads false start history queue) :
    places false history 0 0 = List.range (allReceived history).length := by
  induction h with
  | nothing => rfl
  | sent _ m ih => rw [places_concat_sent, allReceived_concat_sent, ih]
  | received _ ih =>
    rename_i history queue _
    rw [places_concat_received, allReceived_concat_received, ih]
    cases queue.head? <;> simp [List.range_succ]

/-- A reader holds nothing exactly when its newest message was received, or there was none. -/
theorem queue_eq_nil_iff (h : Leads conflate [] history queue) : queue = [] ↔ UpToDate conflate history := by
  cases conflate with
  | false =>
    -- What was received is the beginning of what was sent: it has the last place only if nothing is left.
    have hsent := h.sent_eq
    rw [List.nil_append] at hsent
    rw [UpToDate, h.places_eq_range, List.mem_range, hsent, List.append_eq_nil_iff, List.length_append]
    constructor
    · intro hqueue
      rw [hqueue, List.length_nil]
      rcases Nat.eq_zero_or_pos (allReceived history).length with hzero | hpos
      · exact .inl ⟨List.length_eq_zero_iff.mp hzero, rfl⟩
      · exact .inr (by omega)
    · rintro (⟨-, hqueue⟩ | hlt)
      · exact hqueue
      · exact List.length_eq_zero_iff.mp (by omega)
  | true =>
    induction h with
    | nothing => exact iff_of_true rfl (.inl rfl)
    | sent h m ih =>
      rename_i history queue
      refine iff_of_false (List.cons_ne_nil m []) ?_
      -- No message received so far has the place of the one that is sent.
      rintro (hnone | hplace)
      · simp at hnone
      · rw [places_concat_sent] at hplace
        have hlt := h.place_lt hplace
        simp at hlt
    | received h ih =>
      rename_i history queue
      cases hhead : queue.head? with
      | none =>
        have hqueue := List.head?_eq_none_iff.mp hhead
        have hbefore := ih.mp hqueue
        refine iff_of_true (by rw [hqueue]; rfl) ?_
        rw [UpToDate, allSent_concat_received, places_concat_received]
        simpa [UpToDate] using hbefore
      | some m =>
        obtain ⟨rest, rfl⟩ := List.head?_eq_some_iff.mp hhead
        obtain ⟨hsingle, -⟩ := h.getLast?_of_mem List.mem_cons_self
        refine iff_of_true ?_ (.inr ?_)
        · rw [hsingle]
          rfl
        · rw [allSent_concat_received, places_concat_received]
          simp

end Leads

end Traffic

end TopicHealth
