import TopicHealth.Proofs.Tracker.Run

/-!
# The log of a tracker

What the lines of a log say about the two timing flags of a service, by their texts: the message tells which flag
and what it became, a field names the service and another one the tick. Whoever reads the log of each tick in order
knows the flags.

* `said_judge`, `tells_of_tick`: one tick says of each flag what it became if that is new, and nothing otherwise.
* `Logged.flags`, `Logged.log`: a run of ticks, and the log of each.
-/

namespace TopicHealth

/-- A flag that each tick forms anew. -/
inductive Flag where
  | alive
  | freqOk
deriving DecidableEq

def Status.flag (st : Status) : Flag → Bool
  | .alive => st.alive
  | .freqOk => st.freqOk

/-- The message of a line that a flag was set or cleared. -/
def Flag.message : Flag → Bool → String
  | .alive, true => "Service is alive"
  | .alive, false => "Service is no longer alive"
  | .freqOk, true => "Service rate recovered"
  | .freqOk, false => "Service is below its expected rate"

namespace Notice

/-- What a line says that a flag of a service became, if it is about that. -/
def says? (flag : Flag) (s : Service) (n : Notice) : Option Bool :=
  if n.fields.lookup "service" = some s.name then
    if n.message = flag.message true then some true
    else if n.message = flag.message false then some false
    else none
  else none

/-- What the lines of a log say that a flag of a service became, in order. -/
def said (flag : Flag) (s : Service) (log : List Notice) : List Bool := log.filterMap (says? flag s)

/-- What a flag of a service is after all that a log says about it. -/
def replay (flag : Flag) (s : Service) (log : List Notice) (value : Bool) : Bool :=
  log.foldl (fun value n => (n.says? flag s).getD value) value

/-- A line that is about no flag. -/
def Quiet (n : Notice) : Prop := ∀ flag s, n.says? flag s = none

variable {flag : Flag} {s r : Service} {log log' : List Notice} {value value' : Bool} {frame : Int}

theorem said_append : said flag s (log ++ log') = said flag s log ++ said flag s log' := List.filterMap_append

theorem said_of_quiet (h : ∀ n ∈ log, n.Quiet) : said flag s log = [] :=
  List.filterMap_eq_nil_iff.mpr fun n hn => h n hn flag s

theorem replay_append : replay flag s (log ++ log') value = replay flag s log' (replay flag s log value) :=
  List.foldl_append

/-- The last word about a flag is what it is. -/
theorem replay_eq_of_said : replay flag s log value = (said flag s log).foldl (fun _ said => said) value := by
  induction log generalizing value with
  | nil => rfl
  | cons n log ih =>
    rw [replay, List.foldl_cons, said, List.filterMap_cons]
    cases n.says? flag s with
    | none => exact ih
    | some said => exact ih

theorem quiet_of_message {n : Notice} (h : ∀ flag : Flag, ∀ value, n.message ≠ flag.message value) : n.Quiet := by
  intro flag s
  rw [says?, if_neg (h flag true), if_neg (h flag false), ite_self]

theorem quiet_untrackedMessage (r : Service) (frame : Int) : (untrackedMessage r frame).Quiet :=
  quiet_of_message fun flag value => by
    cases flag <;> cases value <;> simp [message, Flag.message]

end Notice

/-! ## The lines about flags -/

namespace Flag

/-- The line that a flag of a service was set or cleared in a tick. -/
def notice (s : Service) (frame : Int) : Flag → Bool → Notice
  | .alive, true => .alive s frame
  | .alive, false => .notAlive s frame
  | .freqOk, true => .rateRecovered s frame
  | .freqOk, false => .belowRate s frame

/-- The news about a flag: what it has become, if it was something else. -/
def news (before after : Bool) : List Bool := if before = after then [] else [after]

variable {flag flag' : Flag} {s r : Service} {value value' : Bool} {frame : Int}

theorem length_news_le (before after : Bool) : (news before after).length ≤ 1 := by
  rw [news]
  split_ifs
  · exact Nat.zero_le 1
  · exact Nat.le_refl 1

theorem foldl_news (before after : Bool) : (news before after).foldl (fun _ said => said) before = after := by
  rw [news]
  split_ifs with h
  · exact h
  · rfl

/-- What follows on the news is never the same twice if it is not from there on. -/
theorem isChain_news {before after : Bool} {later : List Bool} (h : (after :: later).IsChain (· ≠ ·)) :
    (before :: (news before after ++ later)).IsChain (· ≠ ·) := by
  rw [news]
  split_ifs with heq
  · rw [heq, List.nil_append]
    exact h
  · exact List.isChain_cons_cons.mpr ⟨heq, h⟩

theorem message_notice : (flag.notice s frame value).message = flag.message value := by
  cases flag <;> cases value <;> rfl

theorem service_notice : (flag.notice s frame value).fields.lookup "service" = some s.name := by
  cases flag <;> cases value <;> rfl

theorem frame_notice : (flag.notice s frame value).fields.lookup "frame" = some (toString frame) := by
  cases flag <;> cases value <;> rfl

theorem message_inj : flag.message value = flag'.message value' ↔ flag = flag' ∧ value = value' := by
  cases flag <;> cases value <;> cases flag' <;> cases value' <;> decide

/-- The line of a flag, if any, is the one of its news. -/
theorem line_eq (flag : Flag) (s : Service) (frame : Int) (before after : Bool) :
    (if before && !after then [flag.notice s frame false]
      else if !before && after then [flag.notice s frame true] else []) =
      (news before after).map (flag.notice s frame) := by
  cases before <;> cases after <;> rfl

theorem says?_notice :
    (flag.notice r frame value).says? flag' s = if flag = flag' ∧ r = s then some value else none := by
  rw [Notice.says?, service_notice, message_notice]
  by_cases hs : r = s
  · subst hs
    cases value <;> simp [message_inj]
  · have hname : some r.name ≠ some s.name := fun h => hs (Service.name_injective (Option.some.inj h))
    rw [if_neg hname, if_neg fun h => hs h.2]

theorem said_map_notice {values : List Bool} :
    Notice.said flag' s (values.map (flag.notice r frame)) = if flag = flag' ∧ r = s then values else [] := by
  rw [Notice.said, List.filterMap_map]
  split_ifs with h
  · have htold : Notice.says? flag' s ∘ flag.notice r frame = some := by
      funext value
      rw [Function.comp_apply, says?_notice, if_pos h]
    rw [htold, List.filterMap_some]
  · refine List.filterMap_eq_nil_iff.mpr fun value _ => ?_
    rw [Function.comp_apply, says?_notice, if_neg h]

end Flag

/-! ## Ticks -/

open Notice (said replay)

/-- The lines about a service in a tick are those of its two flags. -/
theorem Status.changes_eq (s : Service) (frame : Int) (before after : Status) : before.changes s frame after =
    (Flag.news before.alive after.alive).map (Flag.alive.notice s frame)
      ++ (Flag.news before.freqOk after.freqOk).map (Flag.freqOk.notice s frame) :=
  congrArg₂ (· ++ ·) (Flag.line_eq .alive s frame before.alive after.alive)
    (Flag.line_eq .freqOk s frame before.freqOk after.freqOk)

theorem Status.said_changes (flag : Flag) (s r : Service) (frame : Int) (before after : Status) :
    said flag s (before.changes r frame after) =
      if r = s then Flag.news (before.flag flag) (after.flag flag) else [] := by
  rw [changes_eq, Notice.said_append, Flag.said_map_notice, Flag.said_map_notice]
  cases flag <;> simp [Status.flag]

theorem Status.frame_of_mem_changes {s : Service} {frame : Int} {before after : Status} {n : Notice}
    (h : n ∈ before.changes s frame after) : n.fields.lookup "frame" = some (toString frame) := by
  rw [changes_eq, List.mem_append, List.mem_map, List.mem_map] at h
  rcases h with ⟨value, -, rfl⟩ | ⟨value, -, rfl⟩
  · exact Flag.frame_notice
  · exact Flag.frame_notice

namespace Tracker

variable {p : Policy} {now : Duration} {frame : Int} {s : Service} {flag : Flag} {t t' : Tracker}
  {entries after : List (Service × Status)}

/-- Taking messages in tells only of those that are passed over. -/
theorem exists_untracked_of_mem_receive {events : List Event} {n : Notice}
    (h : n ∈ (receive p now frame events entries).1) : ∃ r, n = .untrackedMessage r frame := by
  induction events generalizing entries with
  | nil => cases h
  | cons e events ih =>
    rw [receive] at h
    cases htracked : entries.lookup e.service with
    | some st =>
      rw [htracked] at h
      exact ih h
    | none =>
      rw [htracked] at h
      rcases List.mem_cons.mp h with rfl | h
      · exact ⟨_, rfl⟩
      · exact ih h

theorem quiet_of_mem_receive {events : List Event} {n : Notice} (h : n ∈ (receive p now frame events entries).1) :
    n.Quiet := by
  obtain ⟨r, rfl⟩ := exists_untracked_of_mem_receive h
  exact Notice.quiet_untrackedMessage r frame

/-- Messages change no flag. -/
theorem flag_recordAll (events : List Event) (st : Status) :
    (p.recordAll s now frame events st).flag flag = st.flag flag := by
  induction events generalizing st with
  | nil => rfl
  | cons e events ih =>
    rw [Policy.recordAll, List.foldl_cons]
    refine (ih _).trans ?_
    rw [Policy.record]
    split_ifs <;> cases flag <;> rfl

theorem judge_cons_fst {st st' : Status} (h : p.judge s st now = .ok st') :
    (judge p now frame ((s, st) :: entries)).1 = st.changes s frame st' ++ (judge p now frame entries).1 := by
  rw [judge, h]

/-- Judging tells of changes of the services that are judged only. -/
theorem exists_changes_of_mem_judge {n : Notice} (h : n ∈ (judge p now frame entries).1) :
    ∃ entry ∈ entries, ∃ st', n ∈ entry.2.changes entry.1 frame st' := by
  induction entries with
  | nil => cases h
  | cons entry entries ih =>
    obtain ⟨r, st⟩ := entry
    cases hjudge : p.judge r st now with
    | error fault =>
      rw [judge, hjudge] at h
      cases h
    | ok st' =>
      rw [judge_cons_fst hjudge] at h
      rcases List.mem_append.mp h with h | h
      · exact ⟨(r, st), List.mem_cons_self, st', h⟩
      · obtain ⟨entry, hentry, hchanges⟩ := ih h
        exact ⟨entry, List.mem_cons_of_mem _ hentry, hchanges⟩

theorem said_judge_of_not_mem (h : s ∉ entries.map (·.1)) : said flag s (judge p now frame entries).1 = [] := by
  refine List.filterMap_eq_nil_iff.mpr fun n hn => ?_
  obtain ⟨entry, hentry, st', hchanges⟩ := exists_changes_of_mem_judge hn
  have hne : ¬ entry.1 = s := fun heq => h (List.mem_map.mpr ⟨entry, hentry, heq⟩)
  have hsaid := entry.2.said_changes flag s entry.1 frame st'
  rw [if_neg hne] at hsaid
  exact List.filterMap_eq_nil_iff.mp hsaid n hchanges

/-- Judging tells of each flag of a service what it becomes, if that is new. -/
theorem said_judge {st st' : Status} (hnodup : (entries.map (·.1)).Nodup)
    (h : (judge p now frame entries).2 = .ok after) (hst : entries.lookup s = some st)
    (hst' : after.lookup s = some st') :
    said flag s (judge p now frame entries).1 = Flag.news (st.flag flag) (st'.flag flag) := by
  induction entries generalizing after with
  | nil => cases hst
  | cons entry entries ih =>
    obtain ⟨r, str⟩ := entry
    obtain ⟨hr, hrest⟩ := List.nodup_cons.mp hnodup
    obtain ⟨str', rest', hjudge, hjudged, rfl⟩ := judge_cons_eq_ok_iff.mp h
    rw [judge_cons_fst hjudge, Notice.said_append, Status.said_changes]
    rw [List.lookup_cons] at hst hst'
    by_cases heq : r = s
    · -- The lines of the service are here, and none of those that follow is about it again.
      subst heq
      rw [beq_self_eq_true] at hst hst'
      cases hst
      cases hst'
      rw [if_pos rfl, said_judge_of_not_mem hr, List.append_nil]
    · have hne : (s == r) = false := beq_false_of_ne fun h => heq h.symm
      rw [hne] at hst hst'
      rw [if_neg heq, List.nil_append]
      exact ih hrest hjudged hst hst'

/-- A log tells what became of the flags between two states of a tracker: of each flag of a service it says the news
and nothing else, and it says them with the number of the tick. -/
structure Tells (t t' : Tracker) (log : List Notice) : Prop where
  news : ∀ {s st st'}, t.status? s = some st → t'.status? s = some st' →
    ∀ flag, said flag s log = Flag.news (st.flag flag) (st'.flag flag)
  dated : ∀ n ∈ log, n.Quiet ∨ n.fields.lookup "frame" = some (toString (t.frame + 1))

/-- A tick is quiet until it judges. -/
theorem exists_tick_fst (t : Tracker) (now : Duration) (batch : List (Option Event)) :
    ∃ quiet, (∀ n ∈ quiet, n.Quiet)
      ∧ (t.tick now batch).1 = quiet ++ (judge t.policy now (t.frame + 1) (t.received now batch)).1 :=
  ⟨_, fun _ hn => quiet_of_mem_receive hn, rfl⟩

theorem tells_of_judge {batch : List (Option Event)} (hnodup : t.services.Nodup)
    (h : (judge t.policy now (t.frame + 1) (t.received now batch)).2 = .ok after) :
    t.Tells { t with frame := t.frame + 1, entries := after }
      (judge t.policy now (t.frame + 1) (t.received now batch)).1 where
  news {s st st'} hst hst' flag := by
    have hreceived := t.lookup_received now batch s
    rw [hst, Option.map_some] at hreceived
    have hkeys : ((t.received now batch).map (·.1)).Nodup := by
      rw [keys_received]
      exact hnodup
    rw [said_judge hkeys h hreceived hst', flag_recordAll]
    cases flag <;> rfl
  dated n hn := by
    obtain ⟨entry, -, st', hchanges⟩ := exists_changes_of_mem_judge hn
    exact .inr (Status.frame_of_mem_changes hchanges)

theorem Tells.replay_eq {log : List Notice} {st st' : Status} (h : t.Tells t' log) (hst : t.status? s = some st)
    (hst' : t'.status? s = some st') : replay flag s log (st.flag flag) = st'.flag flag := by
  rw [Notice.replay_eq_of_said, h.news hst hst', Flag.foldl_news]

/-- Quiet lines in front make no difference. -/
theorem Tells.quiet_append {quiet log : List Notice} (h : t.Tells t' log) (hquiet : ∀ n ∈ quiet, n.Quiet) :
    t.Tells t' (quiet ++ log) where
  news hst hst' flag := by
    rw [Notice.said_append, Notice.said_of_quiet hquiet, List.nil_append]
    exact h.news hst hst' flag
  dated n hn := by
    rcases List.mem_append.mp hn with hn | hn
    · exact .inl (hquiet n hn)
    · exact h.dated n hn

theorem tells_of_tick {batch : List (Option Event)} (hnodup : t.services.Nodup)
    (h : (t.tick now batch).2 = .ok t') : t.Tells t' (t.tick now batch).1 := by
  obtain ⟨after, hjudge, rfl⟩ := tick_eq_ok_iff.mp h
  obtain ⟨quiet, hquiet, hlog⟩ := t.exists_tick_fst now batch
  rw [hlog]
  exact (tells_of_judge hnodup hjudge).quiet_append hquiet

/-! ## Runs -/

/-- A tracker goes through ticks of which each is told by a log. -/
inductive Logged : Tracker → List (List Notice) → Tracker → Prop where
  | nil (t : Tracker) : Logged t [] t
  | cons {t t' t'' : Tracker} {now : Duration} {batch : List (Option Event)} {log : List Notice}
    {logs : List (List Notice)} : Ticked now batch t t' → t.Tells t' log → Logged t' logs t'' →
      Logged t (log :: logs) t''

/-- The flags at the end are those at the beginning with all that the logs say, which is never the same twice. -/
theorem Logged.flags {logs : List (List Notice)} {st : Status} (h : t.Logged logs t') (hst : t.status? s = some st)
    (flag : Flag) : ∃ st', t'.status? s = some st' ∧ replay flag s logs.flatten (st.flag flag) = st'.flag flag
      ∧ (st.flag flag :: said flag s logs.flatten).IsChain (· ≠ ·) := by
  induction h generalizing st with
  | nil t => exact ⟨st, hst, rfl, .singleton _⟩
  | cons hticked htells _ ih =>
    obtain ⟨st₁, -, hst₁⟩ := hticked.status hst
    obtain ⟨st', hst', hreplay, hchain⟩ := ih hst₁
    have hnews := htells.news hst hst₁ flag
    refine ⟨st', hst', ?_, ?_⟩
    · rw [List.flatten_cons, Notice.replay_append, htells.replay_eq hst hst₁]
      exact hreplay
    · rw [List.flatten_cons, Notice.said_append, hnews]
      exact Flag.isChain_news hchain

/-- The log of each tick says at most one thing of a flag, and with the number of the tick. -/
theorem Logged.log {logs : List (List Notice)} {st : Status} (h : t.Logged logs t') (hst : t.status? s = some st)
    (flag : Flag) {k : Nat} {log : List Notice} (hlog : logs[k]? = some log) : (said flag s log).length ≤ 1
      ∧ ∀ n ∈ log, n.Quiet ∨ n.fields.lookup "frame" = some (toString (t.frame + 1 + k)) := by
  induction h generalizing st k with
  | nil t => cases hlog
  | @cons t t₁ _ _ _ _ _ hticked htells _ ih =>
    obtain ⟨st₁, -, hst₁⟩ := hticked.status hst
    cases k with
    | zero =>
      cases hlog
      rw [htells.news hst hst₁ flag, Int.natCast_zero, Int.add_zero]
      exact ⟨Flag.length_news_le _ _, htells.dated⟩
    | succ k =>
      have hframe : t₁.frame + 1 + k = t.frame + 1 + ((k + 1 : Nat) : Int) := by
        rw [hticked.frame]
        omega
      rw [← hframe]
      exact ih hst₁ hlog

end Tracker

end TopicHealth
