import TopicHealth.Proofs.Prelude
import TopicHealth.Tracker.Basic

/-!
# Ticks

What a tick depends on, and what it leaves alone. A tick treats each service by itself: `advance` makes the status
after the tick from the one before and from the messages of the service in the batch.

* `ticked_of_tick`: what a tick does to a tracker.
* `exists_tick`: a tick goes through if it does for each service.
-/

namespace TopicHealth.Tracker

variable {p : Policy} {now : Duration} {frame : Int} {batch : List (Option Event)} {t t' : Tracker}

/-- A tick passes over the gaps in its batch. -/
theorem tick_filterMap (t : Tracker) (now : Duration) (batch : List (Option Event)) :
    t.tick now batch = t.tick now ((batch.filterMap id).map some) := by
  have h : ((batch.filterMap id).map some).filterMap id = batch.filterMap id := by
    simp
  rw [Tracker.tick, Tracker.tick, h]

/-! ## One service -/

/-- The messages of a service in a batch, in order. -/
def eventsOf (s : Service) (batch : List (Option Event)) : List Event :=
  (batch.filterMap id).filter fun e => e.service = s

/-- Takes messages of a service in, in order. -/
def Policy.recordAll (p : Policy) (s : Service) (now : Duration) (frame : Int) (events : List Event) (st : Status) :
    Status :=
  events.foldl (fun st e => p.record s st now frame e) st

/-- What a tick makes of the status of one service. -/
def Policy.advance (p : Policy) (s : Service) (st : Status) (now : Duration) (frame : Int)
    (batch : List (Option Event)) : Except Ring.MeanFault Status :=
  p.judge s (p.recordAll s now frame (eventsOf s batch) { st with updated := false }) now

/-! ## Receiving -/

theorem keys_change (s : Service) (f : Status → Status) (entries : List (Service × Status)) :
    (change s f entries).map (·.1) = entries.map (·.1) := by
  induction entries with
  | nil => rfl
  | cons entry entries ih =>
    rw [change]
    split
    · rfl
    · rw [List.map_cons, List.map_cons, ih]

/-- A message changes the status of its service alone. -/
theorem lookup_change (s r : Service) (f : Status → Status) (entries : List (Service × Status)) :
    (change s f entries).lookup r = if r = s then (entries.lookup r).map f else entries.lookup r := by
  -- The entry that is changed is the first of its service, which is the one that is found.
  induction entries with
  | nil => simp [change]
  | cons entry entries ih =>
    obtain ⟨key, st⟩ := entry
    by_cases hkey : key = s
    · subst hkey
      by_cases hr : r = key
      · subst hr
        simp [change]
      · simp [change, List.lookup_cons, beq_false_of_ne hr, hr]
    · rw [change, if_neg hkey, List.lookup_cons, List.lookup_cons]
      cases hr : r == key with
      | false => exact ih
      | true =>
        have hne : ¬ r = s := fun heq => hkey ((beq_iff_eq.mp hr).symm.trans heq)
        rw [if_neg hne]

theorem keys_receive (events : List Event) (entries : List (Service × Status)) :
    (receive p now frame events entries).2.map (·.1) = entries.map (·.1) := by
  induction events generalizing entries with
  | nil => rfl
  | cons e events ih =>
    rw [receive]
    cases entries.lookup e.service with
    | some _ => exact (ih _).trans (keys_change _ _ _)
    | none => exact ih _

/-- A batch does to each service what the messages of that service do. -/
theorem lookup_receive (events : List Event) (entries : List (Service × Status)) (s : Service) :
    (receive p now frame events entries).2.lookup s =
      (entries.lookup s).map (p.recordAll s now frame (events.filter fun e => e.service = s)) := by
  -- A message changes the entry of its own service, if there is one, and no other.
  induction events generalizing entries with
  | nil =>
    change entries.lookup s = _
    cases entries.lookup s <;> rfl
  | cons e events ih =>
    rw [receive, List.filter_cons]
    cases htracked : entries.lookup e.service with
    | some st =>
      change (receive p now frame events _).2.lookup s = _
      rw [ih, lookup_change]
      by_cases hs : s = e.service
      · subst hs
        simp [htracked, Policy.recordAll]
      · have hs' : ¬ e.service = s := fun heq => hs heq.symm
        simp [hs, hs']
    | none =>
      change (receive p now frame events entries).2.lookup s = _
      rw [ih]
      by_cases hs : e.service = s
      · subst hs
        simp [htracked]
      · simp [hs]

/-! ## Judging -/

/-- Judging goes through for some services if it does for the first and for the rest. -/
theorem judge_cons_eq_ok_iff {s : Service} {st : Status} {rest after : List (Service × Status)} :
    (judge p now frame ((s, st) :: rest)).2 = .ok after ↔
      ∃ st' rest', p.judge s st now = .ok st' ∧ (judge p now frame rest).2 = .ok rest'
        ∧ after = (s, st') :: rest' := by
  rw [judge]
  cases p.judge s st now with
  | error fault => simp
  | ok st' =>
    constructor
    · intro h
      obtain ⟨rest', hrest, hafter⟩ := map_eq_ok h
      exact ⟨st', rest', rfl, hrest, hafter.symm⟩
    · rintro ⟨st₁, rest', hst, hrest, rfl⟩
      cases hst
      change Except.map _ (judge p now frame rest).2 = _
      rw [hrest]
      rfl

theorem keys_judge {entries after : List (Service × Status)} (h : (judge p now frame entries).2 = .ok after) :
    after.map (·.1) = entries.map (·.1) := by
  induction entries generalizing after with
  | nil =>
    cases h
    rfl
  | cons entry entries ih =>
    obtain ⟨st', rest', -, hrest, rfl⟩ := judge_cons_eq_ok_iff.mp h
    rw [List.map_cons, List.map_cons, ih hrest]

theorem lookup_judge {entries after : List (Service × Status)} (h : (judge p now frame entries).2 = .ok after)
    {s : Service} {st : Status} (hs : entries.lookup s = some st) :
    ∃ st', p.judge s st now = .ok st' ∧ after.lookup s = some st' := by
  induction entries generalizing after with
  | nil => cases hs
  | cons entry entries ih =>
    obtain ⟨st', rest', hjudge, hrest, rfl⟩ := judge_cons_eq_ok_iff.mp h
    rw [List.lookup_cons] at hs ⊢
    cases hkey : s == entry.1 with
    | true =>
      rw [hkey] at hs
      cases hs
      cases beq_iff_eq.mp hkey
      exact ⟨st', hjudge, rfl⟩
    | false =>
      rw [hkey] at hs
      exact ih hrest hs

/-- Judging goes through if it does for each service. -/
theorem exists_judge {entries : List (Service × Status)}
    (h : ∀ entry ∈ entries, ∃ after, p.judge entry.1 entry.2 now = .ok after) :
    ∃ after, (judge p now frame entries).2 = .ok after := by
  induction entries with
  | nil => exact ⟨[], rfl⟩
  | cons entry entries ih =>
    obtain ⟨hentry, hrest⟩ := List.forall_mem_cons.mp h
    obtain ⟨st', hst⟩ := hentry
    obtain ⟨rest', hrest'⟩ := ih hrest
    exact ⟨_, judge_cons_eq_ok_iff.mpr ⟨st', rest', hst, hrest', rfl⟩⟩

/-! ## Ticks -/

/-- The entries of a tracker as a tick judges them: idle, and then with the messages of the batch. -/
def received (t : Tracker) (now : Duration) (batch : List (Option Event)) : List (Service × Status) :=
  (receive t.policy now (t.frame + 1) (batch.filterMap id)
    (t.entries.map fun (s, st) => (s, { st with updated := false }))).2

theorem keys_received (t : Tracker) (now : Duration) (batch : List (Option Event)) :
    (t.received now batch).map (·.1) = t.services := by
  rw [received, keys_receive, List.map_map]
  rfl

theorem lookup_received (t : Tracker) (now : Duration) (batch : List (Option Event)) (s : Service) :
    (t.received now batch).lookup s = (t.status? s).map fun st =>
      t.policy.recordAll s now (t.frame + 1) (eventsOf s batch) { st with updated := false } := by
  have hidle : (t.entries.map fun (s, st) => (s, { st with updated := false })).lookup s =
      (t.status? s).map fun st => { st with updated := false } :=
    lookup_map_snd (fun st : Status => { st with updated := false }) t.entries s
  rw [received, lookup_receive, hidle, Option.map_map]
  rfl

/-- A tick goes through when every service can be judged after the messages are recorded. -/
theorem tick_eq_ok_iff : (t.tick now batch).2 = .ok t' ↔
    ∃ after, (judge t.policy now (t.frame + 1) (t.received now batch)).2 = .ok after
      ∧ t' = { t with frame := t.frame + 1, entries := after } := by
  constructor
  · intro h
    obtain ⟨after, hjudge, hafter⟩ := map_eq_ok h
    exact ⟨after, hjudge, hafter.symm⟩
  · rintro ⟨after, hjudge, rfl⟩
    change Except.map _ (judge t.policy now (t.frame + 1) (t.received now batch)).2 = _
    rw [hjudge]
    rfl

/-- What a tick does to a tracker: it is counted, and the status of each service advances. -/
structure Ticked (now : Duration) (batch : List (Option Event)) (t t' : Tracker) : Prop where
  frame : t'.frame = t.frame + 1
  policy : t'.policy = t.policy
  services : t'.services = t.services
  status : ∀ {s st}, t.status? s = some st →
    ∃ st', t.policy.advance s st now (t.frame + 1) batch = .ok st' ∧ t'.status? s = some st'

theorem ticked_of_tick (h : (t.tick now batch).2 = .ok t') : Ticked now batch t t' := by
  obtain ⟨after, hjudge, rfl⟩ := tick_eq_ok_iff.mp h
  constructor
  case frame => rfl
  case policy => rfl
  case services => exact (keys_judge hjudge).trans (t.keys_received now batch)
  case status =>
    intro s st hst
    have hreceived := t.lookup_received now batch s
    rw [hst, Option.map_some] at hreceived
    exact lookup_judge hjudge hreceived

/-- A tick goes through if it does for each service. -/
theorem exists_tick (hnodup : t.services.Nodup)
    (h : ∀ s st, t.status? s = some st → ∃ st', t.policy.advance s st now (t.frame + 1) batch = .ok st') :
    ∃ t', (t.tick now batch).2 = .ok t' := by
  have hjudged : ∀ entry ∈ t.received now batch, ∃ after, t.policy.judge entry.1 entry.2 now = .ok after := by
    intro entry hentry
    have hkeys : ((t.received now batch).map (·.1)).Nodup := by
      rw [keys_received]
      exact hnodup
    have hlookup := lookup_of_mem hkeys hentry
    rw [lookup_received, Option.map_eq_some_iff] at hlookup
    obtain ⟨st, hst, hentry⟩ := hlookup
    rw [← hentry]
    exact h entry.1 st hst
  have hjudge : ∃ after, (judge t.policy now (t.frame + 1) (t.received now batch)).2 = .ok after :=
    exists_judge hjudged
  obtain ⟨after, hafter⟩ := hjudge
  exact ⟨_, tick_eq_ok_iff.mpr ⟨after, hafter, rfl⟩⟩

end TopicHealth.Tracker
