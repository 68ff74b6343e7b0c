import TopicHealth.Proofs.Bus.Receive
import TopicHealth.Proofs.Duration
import TopicHealth.Proofs.Prelude
import TopicHealth.PublisherSet

/-!
# Waiting for readers

What a wait for readers comes to is decided at its last look alone, by the readers and the clock, however long each
sleep took and whatever was done to the bus meanwhile. A blocking wait whose timeout ends beyond the clock has no
deadline: it takes its interval for the time that is left, and gives up at once if that is empty. An asynchronous wait
breaks down then; with a deadline the two are the same.

* `ReaderWait.verdict_start_eq_late_iff`, `ReaderWait.verdict_asynchronous`: when no time is left.
* `PublisherSet.Awaits`, `PublisherSet.awaits_watch`: how a wait stands after one look, and so after each of them.
* `PublisherSet.waitForReaders_awaits`, `PublisherSet.waitForReadersAsync_awaits`: the waits of either kind.
-/

namespace TopicHealth

namespace Operation

variable [Clock] {α : Type}

/-- A sleep waits, whatever its span. -/
theorem exists_sleep_eq (span : Duration) (bus : Bus) (now : Duration) :
    ∃ reason, sleep span bus now = .wait bus [] reason fun bus _ => .done bus [] () := by
  have hclock : clock bus now = .done bus [] now := rfl
  rw [sleep, bind_of_done_nil hclock]
  cases hlater : now.later? (if span < Clock.shortestSleep then Clock.shortestSleep else span) with
  | none => exact ⟨.unread [] none, if_neg (by simp [Wait.isOver])⟩
  | some wakening =>
    -- A sleep takes some time, and so its end is yet to come.
    refine ⟨.asleep wakening, if_neg fun hover => ?_⟩
    have hover := of_decide_eq_true hover
    have hsum := Duration.toNanos_add? (Option.eq_some_of_filter_eq_some hlater)
    have hshortest := Clock.shortestSleep_pos
    rw [Duration.lt_def, Duration.toNanos_zero] at hshortest
    rw [Duration.le_def] at hover
    split_ifs at hsum with hshort
    · omega
    · rw [Duration.lt_def] at hshort
      omega

/-- After a sleep an operation goes on from the bus and the instant it is woken at. -/
theorem exists_sleep_bind_eq (span : Duration) (next : Unit → Operation α) (bus : Bus) (now : Duration) :
    ∃ reason, (sleep span >>= next) bus now = .wait bus [] reason (next ()) := by
  obtain ⟨reason, hsleep⟩ := exists_sleep_eq span bus now
  refine ⟨reason, ?_⟩
  change (sleep span bus now).bind now next = _
  rw [hsleep]
  exact congrArg (Call.wait bus [] reason) (funext₂ fun bus now => Call.after_nil (next () bus now))

end Operation

namespace ReaderWait

variable {began timeout interval now : Duration}

/-! ## Verdicts -/

/-- No time is left at an instant for a blocking wait: its timeout has elapsed since it began, or ends beyond the clock
while its interval is empty. -/
def OutOfTime [Clock] (began timeout interval now : Duration) : Prop :=
  if began.later? timeout = none then interval = .zero else began.toNanos + timeout.toNanos ≤ now.toNanos

theorem verdict_updated (w : ReaderWait) (now : Duration) : w.verdict true now = .updated := rfl

/-- Without a deadline it is the interval that is left, so that an empty one ends the wait at the first look. -/
theorem verdict_of_endless (interval now : Duration) :
    (blocking none interval).verdict false now = if interval = .zero then .late else .sleep interval := by
  unfold verdict
  rw [if_neg Bool.false_ne_true]
  dsimp only
  rw [ite_self]
  exact if_congr Duration.isZero_iff rfl rfl

/-- With a deadline the wait sleeps for the interval, or for what is left if that is less. -/
theorem verdict_of_deadline (deadline interval now : Duration) :
    (blocking (some deadline) interval).verdict false now =
      if deadline ≤ now then .late
      else .sleep (if interval ≤ deadline - now then interval else deadline - now) := by
  unfold verdict
  rw [if_neg Bool.false_ne_true]
  exact if_congr Duration.isZero_sub_iff rfl rfl

/-- With a deadline it does not matter who waits. -/
theorem verdict_asynchronous (deadline : Duration) (updated : Bool) (now : Duration) :
    (asynchronous deadline).verdict updated now = (blocking (some deadline) defaultInterval).verdict updated now := by
  cases updated with
  | true => rw [verdict_updated, verdict_updated]
  | false =>
    rw [verdict_of_deadline]
    unfold verdict
    rw [if_neg Bool.false_ne_true]

theorem verdict_false_ne_updated (w : ReaderWait) (now : Duration) : w.verdict false now ≠ .updated := by
  cases w with
  | blocking deadline interval =>
    -- The two kinds of wait agree once there is a deadline.
    cases deadline with
    | none =>
      rw [verdict_of_endless]
      split_ifs <;> exact Verdict.noConfusion
    | some deadline =>
      rw [verdict_of_deadline]
      split_ifs <;> exact Verdict.noConfusion
  | asynchronous deadline =>
    rw [verdict_asynchronous, verdict_of_deadline]
    split_ifs <;> exact Verdict.noConfusion

variable [Clock]

/-- A wait for the span from an instant on gives up when it is out of time. -/
theorem verdict_start_eq_late_iff :
    (start began timeout interval).verdict false now = .late ↔ OutOfTime began timeout interval now := by
  rw [start, OutOfTime]
  cases hlater : began.later? timeout with
  | none =>
    rw [verdict_of_endless, if_pos rfl]
    split_ifs with hzero
    · exact iff_of_true rfl hzero
    · exact iff_of_false not_false hzero
  | some deadline =>
    -- A deadline within the clock is the sum of the two, and the comparison is one of numbers.
    have hsum := Duration.toNanos_add? (Option.eq_some_of_filter_eq_some hlater)
    rw [verdict_of_deadline, if_neg (Option.some_ne_none deadline), ← hsum, ← Duration.le_def]
    split_ifs with hlate
    · exact iff_of_true rfl hlate
    · exact iff_of_false not_false hlate

/-- The verdicts are all that a wait goes by. -/
theorem wait_congr {w w' : ReaderWait} (h : ∀ updated now, w.verdict updated now = w'.verdict updated now)
    (updated : Bus → Bool) (looks : Nat) : w.wait updated looks = w'.wait updated looks := by
  induction looks with
  | zero => rfl
  | succ looks ih => simp only [wait, h, ih]

/-- One look, and what comes after it. -/
theorem wait_succ (w : ReaderWait) (updated : Bus → Bool) (looks : Nat) (bus : Bus) (now : Duration) :
    w.wait updated (looks + 1) bus now =
      match w.verdict (updated bus) now with
      | .updated => .done bus [] (some true)
      | .late => .done bus [] (some false)
      | .sleep span => (Operation.sleep span >>= fun _ => w.wait updated looks) bus now := by
  -- Both the look and the clock are done at once, which leaves the verdict.
  have hlook : Operation.look updated bus now = .done bus [] (updated bus) := rfl
  have hclock : Operation.clock bus now = .done bus [] now := rfl
  rw [wait, Operation.bind_of_done_nil hlook, Operation.bind_of_done_nil hclock]
  cases w.verdict (updated bus) now with
  | updated | late | sleep => rfl

end ReaderWait

namespace PublisherSet

open ReaderWait

variable {ps : PublisherSet} {s : Service} {p : Publisher} {timeout now : Duration} {bus : Bus} {looks : Nat}
  {start : Duration → Except Breakdown ReaderWait}

/-! ## Publishers -/

/-- A service that the set was not opened for is refused by name. -/
theorem publisher_of_not_mem (h : s ∉ ps.services) : ps.publisher s = .error ⟨s⟩ := by
  have hnone : ps.publishers.lookup s = none := by
    rw [List.lookup_eq_none_iff]
    intro q hq
    rw [bne_iff_ne]
    rintro rfl
    exact h (List.mem_map_of_mem hq)
  rw [publisher, hnone]

theorem exists_publisher_of_mem (h : s ∈ ps.services) : ∃ p, ps.publisher s = .ok p := by
  obtain ⟨p, hlookup⟩ := exists_lookup_of_mem h
  refine ⟨p, ?_⟩
  rw [publisher, hlookup]

/-! ## Looks -/

section Clock

variable [Clock]

/-- How a call stands that has some looks left at the readers of a publisher, the first of them at the bus and the
instant given. If it sleeps, it may be woken with any bus and at any instant. -/
inductive Awaits (s : Service) (p : Publisher) (timeout : Duration) (late : Duration → Prop) :
    Nat → Bus → Duration → Call (Except NotPublished (Option Bool)) → Prop
  | undecided {bus : Bus} {now : Duration} : Awaits s p timeout late 0 bus now (.done bus [] (.ok none))
  | updated {looks : Nat} {bus : Bus} {now : Duration} (hupdated : bus.allReadersUpdated p = true) :
    Awaits s p timeout late (looks + 1) bus now (.done bus [] (.ok (some true)))
  | late {looks : Nat} {bus : Bus} {now : Duration} (hbehind : bus.allReadersUpdated p = false) (hlate : late now) :
    Awaits s p timeout late (looks + 1) bus now (.done bus [.readersBehind s timeout] (.ok (some false)))
  | asleep {looks : Nat} {bus : Bus} {now : Duration} {reason : Wait}
    {resume : Bus → Duration → Call (Except NotPublished (Option Bool))} (hbehind : bus.allReadersUpdated p = false)
    (hearly : ¬ late now) (hresume : ∀ bus now, Awaits s p timeout late looks bus now (resume bus now)) :
    Awaits s p timeout late (looks + 1) bus now (.wait bus [] reason resume)

/-- The looks of a wait at the readers of a publisher, with its report. -/
def watch (s : Service) (p : Publisher) (timeout : Duration) (w : ReaderWait) (looks : Nat) :
    Operation (Except NotPublished (Option Bool)) := do
  let result ← w.wait (fun b => b.allReadersUpdated p) looks
  if result = some false then Operation.report [.readersBehind s timeout]
  return .ok result

theorem watch_asynchronous (deadline : Duration) :
    watch s p timeout (.asynchronous deadline) looks =
      watch s p timeout (.blocking (some deadline) defaultInterval) looks := by
  rw [watch, watch, wait_congr (verdict_asynchronous deadline)]

/-- A wait stands after each look as its verdict says. -/
theorem awaits_watch {w : ReaderWait} {late : Duration → Prop} (hlate : ∀ now, w.verdict false now = .late ↔ late now)
    (s : Service) (p : Publisher) (timeout : Duration) (looks : Nat) (bus : Bus) (now : Duration) :
    Awaits s p timeout late looks bus now (watch s p timeout w looks bus now) := by
  induction looks generalizing bus now with
  | zero => exact .undecided
  | succ looks ih =>
    have hwait := w.wait_succ (fun b => b.allReadersUpdated p) looks bus now
    -- The induction is on the looks left; bus and instant are open, as anything may happen during a sleep.
    cases hupdated : bus.allReadersUpdated p with
    | true =>
      rw [hupdated, verdict_updated] at hwait
      rw [watch, Operation.bind_of_done_nil hwait]
      exact .updated hupdated
    | false =>
      rw [hupdated] at hwait
      cases hverdict : w.verdict false now with
      | updated => exact absurd hverdict (w.verdict_false_ne_updated now)
      | late =>
        rw [hverdict] at hwait
        rw [watch, Operation.bind_of_done_nil hwait]
        exact .late hupdated ((hlate now).mp hverdict)
      | sleep span =>
        have hearly : ¬ late now := by
          rw [← hlate, hverdict]
          exact Verdict.noConfusion
        -- Whatever wakes the sleep, the wait goes on with one look less.
        obtain ⟨reason, hsleep⟩ :=
          Operation.exists_sleep_bind_eq span (fun _ => w.wait (fun b => b.allReadersUpdated p) looks) bus now
        rw [hverdict] at hwait
        have hasleep : watch s p timeout w (looks + 1) bus now = .wait bus [] reason (watch s p timeout w looks) := by
          change (w.wait (fun b => b.allReadersUpdated p) (looks + 1) bus now).bind now _ = _
          rw [hwait]
          dsimp only
          rw [hsleep]
          rfl
        rw [hasleep]
        exact .asleep hupdated hearly ih

/-! ## Waits -/

theorem awaitReaders_of_not_mem (h : s ∉ ps.services) :
    ps.awaitReaders s timeout looks start bus now = .done bus [] (.error ⟨s⟩) := by
  rw [awaitReaders, publisher_of_not_mem h]
  rfl

theorem awaitReaders_of_start (hp : ps.publisher s = .ok p) {w : ReaderWait} (hstart : start now = .ok w) :
    ps.awaitReaders s timeout looks start bus now = watch s p timeout w looks bus now := by
  have hclock : Operation.clock bus now = .done bus [] now := rfl
  rw [awaitReaders, hp]
  dsimp only
  rw [Operation.bind_of_done_nil hclock, hstart]
  rfl

/-- A wait that cannot begin breaks down before the first look. -/
theorem awaitReaders_of_start_error (hp : ps.publisher s = .ok p) {reason : Breakdown}
    (hstart : start now = .error reason) :
    ps.awaitReaders s timeout looks start bus now = .broken bus [] reason := by
  have hclock : Operation.clock bus now = .done bus [] now := rfl
  rw [awaitReaders, hp]
  dsimp only
  rw [Operation.bind_of_done_nil hclock, hstart]
  rfl

/-- The deadline is all that a wait takes from the instant it begins at. -/
theorem awaitReaders_eq (start : Duration → Except Breakdown ReaderWait) :
    ps.awaitReaders s timeout looks start bus now = ps.awaitReaders s timeout looks (fun _ => start now) bus now := by
  rw [awaitReaders, awaitReaders]
  cases ps.publisher s with
  | error | ok => rfl

/-- A wait that began at an instant and comes to its first look at that instant or another. -/
def waitForReadersFrom (began : Duration) (ps : PublisherSet) (s : Service) (timeout interval : Duration)
    (looks : Nat) : Operation (Except NotPublished (Option Bool)) :=
  ps.awaitReaders s timeout looks fun _ => .ok (.start began timeout interval)

/-- The same for an asynchronous caller. -/
def waitForReadersAsyncFrom (began : Duration) (ps : PublisherSet) (s : Service) (timeout : Duration) (looks : Nat) :
    Operation (Except NotPublished (Option Bool)) :=
  ps.awaitReaders s timeout looks fun _ => startAsync began timeout

/-- A wait gives up at a look if it is out of time by then, since the instant that it began at. -/
theorem awaits_waitForReadersFrom (hp : ps.publisher s = .ok p) {began interval : Duration} {late : Duration → Prop}
    (hlate : ∀ now, OutOfTime began timeout interval now ↔ late now) (looks : Nat) (bus : Bus) (now : Duration) :
    Awaits s p timeout late looks bus now (waitForReadersFrom began ps s timeout interval looks bus now) := by
  rw [waitForReadersFrom, awaitReaders_of_start hp rfl]
  exact awaits_watch (fun now => verdict_start_eq_late_iff.trans (hlate now)) s p timeout looks bus now

/-- A blocking wait for the readers of a service that is not published ends with an error. For one that is, it says
that they are updated where they are at its last look, and that they are not where they are not and its timeout has
elapsed by then; without that it says so only where the timeout ends beyond the clock and the interval is empty. It
does not break down. -/
theorem waitForReaders_awaits (ps : PublisherSet) (s : Service) (timeout interval : Duration) (looks : Nat)
    (began : Duration) :
    (∀ bus, ps.waitForReaders s timeout interval looks bus began =
      waitForReadersFrom began ps s timeout interval looks bus began)
    ∧ (s ∉ ps.services → ∀ bus now,
      waitForReadersFrom began ps s timeout interval looks bus now = .done bus [] (.error ⟨s⟩))
    ∧ (s ∈ ps.services → ∃ p, ps.publisher s = .ok p ∧ ∀ bus now,
      Awaits s p timeout (OutOfTime began timeout interval) looks bus now
        (waitForReadersFrom began ps s timeout interval looks bus now)) := by
  refine ⟨fun bus => awaitReaders_eq _, fun hs bus now => awaitReaders_of_not_mem hs, fun hs => ?_⟩
  obtain ⟨p, hp⟩ := exists_publisher_of_mem hs
  exact ⟨p, hp, awaits_waitForReadersFrom hp (fun _ => Iff.rfl) looks⟩

end Clock

/-- A service, and another that is not published. -/
def carPublishers : PublisherSet := ⟨[(.carState, ⟨"carState"⟩)]⟩

/-- The only reader of the service has received everything, or has not. -/
def carBus (unread : List Message) : Bus :=
  ({} : Bus).run ([.openPublisher "carState", .subscribe "carState" "127.0.0.1" false]
    ++ unread.map fun m => .send ⟨"carState"⟩ m)

/-- With a timeout that ends beyond the clock and an empty interval a wait gives up at its first look. -/
theorem waitForReaders_of_carPublishers :
    carPublishers.waitForReaders .userFlag .max .zero 1 (carBus [[0]]) .zero
        = .done (carBus [[0]]) [] (.error ⟨.userFlag⟩)
      ∧ carPublishers.waitForReaders .carState .max .zero 1 (carBus [[0]]) .zero
        = .done (carBus [[0]]) [.readersBehind .carState .max] (.ok (some false)) := by
  obtain ⟨hother, hunpublished, -⟩ := waitForReaders_awaits carPublishers .userFlag .max .zero 1 .zero
  obtain ⟨hfrom, -, hpublished⟩ := waitForReaders_awaits carPublishers .carState .max .zero 1 .zero
  obtain ⟨p, hp, hawaits⟩ := hpublished (by decide)
  have hstands := hawaits (carBus [[0]]) .zero
  cases hp
  rw [hother, hfrom]
  refine ⟨hunpublished (by decide) _ _, ?_⟩
  have hlate : OutOfTime .zero .max .zero .zero := by
    rw [OutOfTime, if_pos (by decide)]
  have hbehind : (carBus [[0]]).allReadersUpdated ⟨"carState"⟩ = false := by decide +kernel
  -- The call is known by how it stands alone, and two of the three ways are ruled out.
  generalize waitForReadersFrom .zero carPublishers .carState .max .zero 1 (carBus [[0]]) .zero = call at hstands ⊢
  cases hstands with
  | updated hupdated => cases hbehind.symm.trans hupdated
  | late => rfl
  | asleep _ hearly => exact absurd hlate hearly

/-- An asynchronous wait for the readers of a service that is not published ends with the same error as the blocking
one of the default interval. For a published one, if the timeout ends within the clock, it is the blocking wait: it is
woken after the same sleeps and ends with the same answer, which is that the readers are not updated only when the
timeout has elapsed. If the timeout ends beyond the clock, the blocking wait goes on until the readers are updated, and
the asynchronous one breaks down, even if they are from the beginning. -/
theorem waitForReadersAsync_awaits [Clock] (ps : PublisherSet) (s : Service) (timeout : Duration) (looks : Nat)
    (began : Duration) :
    (∀ bus, ps.waitForReadersAsync s timeout looks bus began =
        waitForReadersAsyncFrom began ps s timeout looks bus began
      ∧ ps.waitForReaders s timeout defaultInterval looks bus began =
        waitForReadersFrom began ps s timeout defaultInterval looks bus began)
    ∧ (s ∉ ps.services → ∀ bus now,
      waitForReadersAsyncFrom began ps s timeout looks bus now = .done bus [] (.error ⟨s⟩)
        ∧ waitForReadersFrom began ps s timeout defaultInterval looks bus now = .done bus [] (.error ⟨s⟩))
    ∧ (s ∈ ps.services → ∃ p, ps.publisher s = .ok p
      ∧ (began.later? timeout ≠ none → ∀ bus now,
        waitForReadersAsyncFrom began ps s timeout looks bus now =
          waitForReadersFrom began ps s timeout defaultInterval looks bus now
        ∧ Awaits s p timeout (fun now => began.toNanos + timeout.toNanos ≤ now.toNanos) looks bus now
          (waitForReadersFrom began ps s timeout defaultInterval looks bus now))
      ∧ (began.later? timeout = none → ∀ bus now,
        waitForReadersAsyncFrom began ps s timeout looks bus now = .broken bus [] .clockOverflow
        ∧ Awaits s p timeout (fun _ => False) looks bus now
          (waitForReadersFrom began ps s timeout defaultInterval looks bus now))) := by
  refine ⟨fun bus => ⟨awaitReaders_eq _, awaitReaders_eq _⟩,
    fun hs bus now => ⟨awaitReaders_of_not_mem hs, awaitReaders_of_not_mem hs⟩, fun hs => ?_⟩
  obtain ⟨p, hp⟩ := exists_publisher_of_mem hs
  refine ⟨p, hp, fun hclock bus now => ⟨?_, awaits_waitForReadersFrom hp (fun now => ?_) looks bus now⟩,
    fun hclock bus now => ⟨?_, awaits_waitForReadersFrom hp (fun now => ?_) looks bus now⟩⟩
  · obtain ⟨deadline, hdeadline⟩ := Option.ne_none_iff_exists'.mp hclock
    have hasync : startAsync began timeout = .ok (.asynchronous deadline) := by
      rw [startAsync, hdeadline]
    have hblocking : ReaderWait.start began timeout defaultInterval = .blocking (some deadline) defaultInterval := by
      rw [ReaderWait.start, hdeadline]
    -- Within the clock both kinds have the same deadline, and then the same verdicts.
    calc waitForReadersAsyncFrom began ps s timeout looks bus now
        = watch s p timeout (.asynchronous deadline) looks bus now := awaitReaders_of_start hp hasync
      _ = watch s p timeout (.start began timeout defaultInterval) looks bus now := by
          rw [watch_asynchronous, hblocking]
      _ = waitForReadersFrom began ps s timeout defaultInterval looks bus now := (awaitReaders_of_start hp rfl).symm
  · rw [OutOfTime, if_neg hclock]
  · have hasync : startAsync began timeout = .error .clockOverflow := by
      rw [startAsync, hclock]
    exact awaitReaders_of_start_error hp hasync
  · rw [OutOfTime, if_pos hclock]
    -- The default interval is not empty, so the blocking wait is never out of time.
    exact iff_of_false (by decide) not_false

/-- With a timeout that ends beyond the clock the asynchronous wait breaks down where the blocking one ends at once. -/
theorem waitForReadersAsync_of_carPublishers :
    carPublishers.waitForReadersAsync .userFlag .max 1 (carBus []) .zero
        = carPublishers.waitForReaders .userFlag .max defaultInterval 1 (carBus []) .zero
      ∧ carPublishers.waitForReadersAsync .carState .zero 1 (carBus [[0]]) .zero
        = carPublishers.waitForReaders .carState .zero defaultInterval 1 (carBus [[0]]) .zero
      ∧ carPublishers.waitForReadersAsync .carState .max 1 (carBus []) .zero = .broken (carBus []) [] .clockOverflow
      ∧ carPublishers.waitForReaders .carState .max defaultInterval 1 (carBus []) .zero
        = .done (carBus []) [] (.ok (some true)) := by
  obtain ⟨hother, hunpublished, -⟩ := waitForReadersAsync_awaits carPublishers .userFlag .max 1 .zero
  obtain ⟨hempty, -, hreached⟩ := waitForReadersAsync_awaits carPublishers .carState .zero 1 .zero
  obtain ⟨hfrom, -, hpublished⟩ := waitForReadersAsync_awaits carPublishers .carState .max 1 .zero
  obtain ⟨_, -, hwithin, -⟩ := hreached (by decide)
  obtain ⟨p, hp, -, hbeyond⟩ := hpublished (by decide)
  cases hp
  obtain ⟨hbroken, hstands⟩ := hbeyond (by decide) (carBus []) .zero
  obtain ⟨hnone, hnone'⟩ := hunpublished (by decide) (carBus []) .zero
  obtain ⟨hsame, -⟩ := hwithin (by decide) (carBus [[0]]) .zero
  rw [(hother _).1, (hother _).2, (hempty _).1, (hempty _).2, (hfrom _).1, (hfrom _).2]
  refine ⟨hnone.trans hnone'.symm, hsame, hbroken, ?_⟩
  have hupdated : (carBus []).allReadersUpdated ⟨"carState"⟩ = true := by decide +kernel
  generalize waitForReadersFrom .zero carPublishers .carState .max defaultInterval 1 (carBus []) .zero = call
    at hstands ⊢
  cases hstands with
  | updated => rfl
  | late hbehind | asleep hbehind => cases hbehind.symm.trans hupdated

end PublisherSet

end TopicHealth
