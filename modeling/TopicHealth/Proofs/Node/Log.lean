import TopicHealth.Proofs.Aggregator.Log
import TopicHealth.Proofs.Node.Work
import TopicHealth.Proofs.Report.Reading
import TopicHealth.Proofs.Report.Stretch

/-!
# The log of a node

Of the lines that a node at work reports, those about the health of all its services come from its monitor alone, which
recalls from one report to the next whether the last was healthy. So they are the notices of one run of reports, however
the turns of the node come and whatever others do to the bus between them.

* `Monitor.TellsHealth`, `Monitor.step_tellsHealth`, `Node.Work.tellsHealth_log`: one turn of a monitor, and a history.
* `Node.Work.health_of_log`: the lines of a node, and what can be read from those of any run of reports.
-/

namespace TopicHealth

/-! ## Lines about health -/

/-- A line is about the health of all services together. -/
def Notice.isAboutHealth (n : Notice) : Bool := n.message = "All services healthy" || n.message = "Services unhealthy"

namespace Report

theorem isAboutHealth_notice (previous : Option Bool) (r : Report) : (r.notice previous).isAboutHealth = true := by
  rw [notice]
  split_ifs <;> rfl

theorem filter_noticesFrom (previous : Option Bool) (reports : List Report) :
    (noticesFrom previous reports).filter Notice.isAboutHealth = noticesFrom previous reports := by
  induction reports generalizing previous with
  | nil => rfl
  | cons r reports ih => rw [noticesFrom, List.filter_cons_of_pos (isAboutHealth_notice previous r), ih]

end Report

variable {c : Node.Config} {b : Bus} {shutdown : Bool} {now : Duration} {previous : Option Bool}

/-- A tick tells of messages and of flags, not of the health of all services. -/
theorem Tracker.isAboutHealth_of_mem_tick {t : Tracker} {batch : List (Option Event)} {n : Notice}
    (h : n ∈ (t.tick now batch).1) : n.isAboutHealth = false := by
  rcases List.mem_append.mp h with h | h
  · obtain ⟨s, rfl⟩ := exists_untracked_of_mem_receive h
    rfl
  · obtain ⟨entry, -, st, hchanges⟩ := exists_changes_of_mem_judge h
    rw [Status.changes_eq, List.mem_append, List.mem_map, List.mem_map] at hchanges
    rcases hchanges with ⟨value, -, rfl⟩ | ⟨value, -, rfl⟩
    · cases value <;> rfl
    · cases value <;> rfl

theorem Aggregator.tick_tellsOnly (a : Aggregator) (batch : List (Option Event)) :
    (a.tick batch).TellsOnly fun n => n.isAboutHealth = false := by
  intro bus now
  have htick : ∀ n ∈ (a.tracker.tick now batch).1, n.isAboutHealth = false := fun n hn =>
    Tracker.isAboutHealth_of_mem_tick hn
  rw [tick]
  split
  · rename_i notices tracker heq
    rw [heq] at htick
    exact htick
  · rename_i notices heq
    rw [heq] at htick
    exact htick

theorem Aggregator.update_tellsOnly [Clock] (a : Aggregator) (timeout : Duration) :
    (a.update timeout).TellsOnly fun n => n.isAboutHealth = false := by
  refine (a.poller.poll_tellsOnly timeout).bind fun ready => ?_
  have hreceive := receiveAll_tellsOnly (P := fun n => n.isAboutHealth = false) (fun _ => rfl) (fun _ _ => rfl)
    (ready ++ a.nonPolled)
  exact hreceive.bind a.tick_tellsOnly

/-- An emitter tells when it begins and when it ends. -/
theorem Emitter.isAboutHealth_of_mem_step [Clock] {e : Emitter} {n : Notice} (h : n ∈ (e.step b shutdown now).2.1) :
    n.isAboutHealth = false := by
  have hturn : ∀ e : Emitter, ∀ n ∈ (e.turn b shutdown now).2.1, n.isAboutHealth = false := by
    intro e n hn
    rw [turn] at hn
    split_ifs at hn
    · rw [List.mem_singleton.mp hn]
      rfl
    · rcases List.mem_pair.mp hn with rfl | rfl
      · rfl
      · rfl
    · cases hn
  rw [step] at h
  split at h
  · rcases List.mem_cons.mp h with rfl | h
    · rfl
    · exact hturn _ n h
  · split_ifs at h
    · cases h
    · exact hturn e n h
  · cases h
  · cases h

/-! ## Monitors -/

namespace Monitor

variable {m : Monitor} {phase : Phase} {trackers : List Tracker} {notices quiet : List Notice}

/-- What a monitor recalls of its last report. Whatever it waits for, its update will not tell of health. -/
def Phase.Recalls (previous : Option Bool) : Phase → Prop
  | idle _ => previous = none
  | asleep m => m.lastHealthy = previous
  | updating m _ resume => m.lastHealthy = previous
    ∧ ∀ bus now, (resume bus now).TellsOnly fun n => n.isAboutHealth = false
  | ended _ | broken _ => True

/-- The lines about health are those of the reports on some trackers, and the monitor recalls the last of them. -/
def TellsHealth (previous : Option Bool) (trackers : List Tracker) (notices : List Notice) (phase : Phase) : Prop :=
  notices.filter Notice.isAboutHealth = Report.noticesFrom previous (trackers.map Report.ofTracker)
    ∧ phase.Recalls (Report.lastHealth previous (trackers.map Report.ofTracker))

theorem tellsHealth_of_quiet (hquiet : ∀ n ∈ quiet, n.isAboutHealth = false) (h : phase.Recalls previous) :
    TellsHealth previous [] quiet phase :=
  ⟨List.filter_eq_nil_iff.mpr fun n hn => Bool.eq_false_iff.mp (hquiet n hn), h⟩

theorem TellsHealth.quiet_append (h : TellsHealth previous trackers notices phase)
    (hquiet : ∀ n ∈ quiet, n.isAboutHealth = false) : TellsHealth previous trackers (quiet ++ notices) phase := by
  have hnone : quiet.filter Notice.isAboutHealth = [] :=
    List.filter_eq_nil_iff.mpr fun n hn => Bool.eq_false_iff.mp (hquiet n hn)
  exact ⟨by rw [List.filter_append, hnone, List.nil_append, h.1], h.2⟩

variable [Clock]

/-- The update that a turn begins, with its monitor. None where the monitor is to end. -/
def beginning? (m : Monitor) (c : Node.Config) (b : Bus) (shutdown : Bool) (now : Duration) :
    Option (Monitor × Call Aggregator) :=
  if shutdown then none
  else if m.deadline.any fun t => decide (t ≤ now) then none
  else some (m, m.aggregator.update c.updateTimeout b now)

/-- The update that a turn begins or goes on with, with the monitor that it is for. -/
def Phase.update? (phase : Phase) (c : Node.Config) (b : Bus) (shutdown : Bool) (now : Duration) :
    Option (Monitor × Call Aggregator) :=
  match phase with
  | idle aggregator =>
    match now.later? c.reportInterval with
    | none => none
    | some nextReport =>
      beginning? ⟨aggregator, c.runFor.bind now.later?, now, nextReport, none⟩ c b shutdown now
  | asleep m => if now < m.nextTick then none else m.beginning? c b shutdown now
  | updating m reason resume => if reason.isOver b now then some (m, resume b now) else none
  | ended _ | broken _ => none

/-- The tracker of an update that has come to its end, where a report is due then. -/
def due (now : Duration) : Option (Monitor × Call Aggregator) → List Tracker
  | some (m, .done _ _ aggregator) => if now < m.nextReport then [] else [aggregator.tracker]
  | some (_, .wait ..) | some (_, .broken ..) | none => []

/-- The trackers that a turn reports on, of which there is one at most. -/
def Phase.reported (phase : Phase) (c : Node.Config) (b : Bus) (shutdown : Bool) (now : Duration) : List Tracker :=
  due now (phase.update? c b shutdown now)

/-- A turn ends with what its report tells, and the monitor recalls what it does after that. -/
theorem endTurn_recalls (h : ∀ m', (m.tell c.reportInterval now).2 = some m' → m'.lastHealthy = previous) :
    (m.endTurn c now).1 = (m.tell c.reportInterval now).1 ∧ (m.endTurn c now).2.Recalls previous := by
  rw [endTurn]
  cases htell : m.tell c.reportInterval now with
  | mk notices next =>
    rw [htell] at h
    cases next with
    | none => exact ⟨rfl, trivial⟩
    | some m' =>
      dsimp only
      cases m'.nextTick.later? c.tick with
      | none => exact ⟨rfl, trivial⟩
      | some nextTick => exact ⟨rfl, h m' rfl⟩

/-- A turn that ends early tells nothing of health, and one that ends later tells one report. -/
theorem endTurn_tellsHealth (m : Monitor) (c : Node.Config) (now : Duration) :
    TellsHealth m.lastHealthy (if now < m.nextReport then [] else [m.aggregator.tracker]) (m.endTurn c now).1
      (m.endTurn c now).2 := by
  by_cases hearly : now < m.nextReport
  · rw [if_pos hearly]
    have htell : m.tell c.reportInterval now = ([], some m) := by
      rw [tell, if_pos hearly]
    obtain ⟨htold, hrecalls⟩ : (m.endTurn c now).1 = (m.tell c.reportInterval now).1
        ∧ (m.endTurn c now).2.Recalls m.lastHealthy := by
      refine endTurn_recalls fun m' hm' => ?_
      rw [htell] at hm'
      rw [Option.some.inj hm']
    rw [htold, htell]
    exact tellsHealth_of_quiet (List.forall_mem_nil _) hrecalls
  · rw [if_neg hearly]
    -- A report was due. It is told whatever becomes of the time of the next one.
    let report := Report.ofTracker m.aggregator.tracker
    obtain ⟨htold, hrecalls⟩ : (m.endTurn c now).1 = (m.tell c.reportInterval now).1
        ∧ (m.endTurn c now).2.Recalls (some report.isHealthy) := by
      refine endTurn_recalls fun m' hm' => ?_
      rw [tell, if_neg hearly] at hm'
      obtain ⟨nextReport, -, rfl⟩ := Option.map_eq_some_iff.mp hm'
      rfl
    refine ⟨?_, hrecalls⟩
    rw [htold, tell, if_neg hearly]
    exact Report.filter_noticesFrom m.lastHealthy [report]

theorem settle_tellsHealth (m : Monitor) (c : Node.Config) (now : Duration) {call : Call Aggregator}
    (h : call.TellsOnly fun n => n.isAboutHealth = false) :
    TellsHealth m.lastHealthy (due now (some (m, call))) (m.settle c now call).2.1 (m.settle c now call).2.2 := by
  cases call with
  | done bus notices value => exact (endTurn_tellsHealth { m with aggregator := value } c now).quiet_append h
  | wait bus notices reason resume => exact tellsHealth_of_quiet h.1 ⟨rfl, h.2⟩
  | broken bus notices reason => exact tellsHealth_of_quiet h trivial

theorem beginTurn_tellsHealth (m : Monitor) (c : Node.Config) (b : Bus) (shutdown : Bool) (now : Duration) :
    TellsHealth m.lastHealthy (due now (m.beginning? c b shutdown now)) (m.beginTurn c b shutdown now).2.1
      (m.beginTurn c b shutdown now).2.2 := by
  rw [beginTurn, beginning?]
  split_ifs
  · exact tellsHealth_of_quiet (List.forall_mem_singleton.mpr rfl) trivial
  · exact tellsHealth_of_quiet (List.forall_mem_nil _) trivial
  · exact settle_tellsHealth m c now (m.aggregator.update_tellsOnly c.updateTimeout b now)

/-- A turn of a monitor tells the report that it makes, and else nothing about health. -/
theorem step_tellsHealth (h : phase.Recalls previous) :
    TellsHealth previous (phase.reported c b shutdown now) (phase.step c b shutdown now).2.1
      (phase.step c b shutdown now).2.2 := by
  cases phase with
  | idle aggregator =>
    -- Before its first turn a monitor knows of no report.
    have hprevious : previous = none := h
    rw [Phase.step, Phase.reported, Phase.update?, hprevious]
    cases now.later? c.reportInterval with
    | none => exact tellsHealth_of_quiet (List.forall_mem_nil _) trivial
    | some nextReport => exact beginTurn_tellsHealth _ c b shutdown now
  | asleep m =>
    have hprevious : m.lastHealthy = previous := h
    rw [Phase.step, Phase.reported, Phase.update?]
    split_ifs
    · exact tellsHealth_of_quiet (List.forall_mem_nil _) h
    · rw [← hprevious]
      exact beginTurn_tellsHealth m c b shutdown now
  | updating m reason resume =>
    obtain ⟨hprevious, hresume⟩ := h
    rw [Phase.step, Phase.reported, Phase.update?]
    split_ifs
    · rw [← hprevious]
      exact settle_tellsHealth m c now (hresume b now)
    · exact tellsHealth_of_quiet (List.forall_mem_nil _) ⟨hprevious, hresume⟩
  | ended | broken => exact tellsHealth_of_quiet (List.forall_mem_nil _) trivial

end Monitor

/-! ## Histories -/

namespace Node.Work

open Report (Stretch notices)

section Clock

variable [Clock] {w : Work}

/-- What is reported with a move at an instant. -/
def told (w : Work) (now : Duration) : Move → List Notice
  | .turn actor => (w.step actor now).1
  | .act _ => []

/-- All that is reported in a history. -/
def log (w : Work) : History → List Notice
  | [] => []
  | (move, now) :: history => w.told now move ++ (w.move now move).log history

/-- The trackers that are reported on with a move, which is a turn of the monitor then. -/
def reportedBy (w : Work) (now : Duration) : Move → List Tracker
  | .turn .monitor => w.monitor.reported w.config w.bus w.shutdown now
  | .turn (.emitter _) | .turn .stopper | .act _ => []

/-- The trackers that are reported on in a history. -/
def reported (w : Work) : History → List Tracker
  | [] => []
  | (move, now) :: history => w.reportedBy now move ++ (w.move now move).reported history

/-- Only the turns of the monitor tell of health. -/
theorem tellsHealth_told (h : w.monitor.Recalls previous) (now : Duration) (m : Move) :
    Monitor.TellsHealth previous (w.reportedBy now m) (w.told now m) (w.move now m).monitor := by
  cases m with
  | act action => exact Monitor.tellsHealth_of_quiet (List.forall_mem_nil _) h
  | turn actor =>
    cases actor with
    | monitor => exact Monitor.step_tellsHealth h
    | stopper => exact Monitor.tellsHealth_of_quiet (List.forall_mem_nil _) h
    | emitter index =>
      simp only [told, move, step]
      cases w.emitters[index]? with
      | none => exact Monitor.tellsHealth_of_quiet (List.forall_mem_nil _) h
      | some e => exact Monitor.tellsHealth_of_quiet (fun n hn => Emitter.isAboutHealth_of_mem_step hn) h

/-- The lines of a history that are about health are those of the reports made in it. -/
theorem tellsHealth_log (h : w.monitor.Recalls previous) (history : History) :
    Monitor.TellsHealth previous (w.reported history) (w.log history) (w.after history).monitor := by
  induction history generalizing w previous with
  | nil => exact Monitor.tellsHealth_of_quiet (List.forall_mem_nil _) h
  | cons x history ih =>
    obtain ⟨htold, hrecalls⟩ := tellsHealth_told h x.2 x.1
    obtain ⟨hlog, hlast⟩ := ih hrecalls
    refine ⟨?_, ?_⟩
    · rw [log, reported, List.filter_append, htold, hlog, List.map_append, Report.noticesFrom_append]
    · rw [reported, List.map_append, Report.lastHealth_append]
      exact hlast

/-- Let a node work, with turns of its actors in any order, others using its bus between them, and at any instants. The
lines about health that it reports are those of the reports that its monitor makes, one on the tracker of each update
that comes to its end when a report is due. Let any run of reports be told. There is one line for each report. That all
services are healthy is told as news exactly at the first of each stretch of healthy reports, and for debugging at those
after it. An unhealthy report is a warning whose text has exactly the services that are not healthy, in their order,
each with its reasons, of which there is one at least. The three verdicts on each of these services can be read from the
text, so that texts differ where what fails does. -/
theorem health_of_log :
    (∀ (n : Node) (b : Bus) (shutdown : Bool) (history : History),
        ((n.begin b shutdown).log history).filter Notice.isAboutHealth =
          notices (((n.begin b shutdown).reported history).map Report.ofTracker))
      ∧ (∀ reports : List Report, (notices reports).length = reports.length
        ∧ (∀ i : Nat, (∃ n, (notices reports)[i]? = some n ∧ n.level = .info ∧ n.message = "All services healthy") ↔
            ∃ next, Stretch reports i next)
        ∧ (∀ first next i : Nat, Stretch reports first next → first < i → i < next →
            ∃ n, (notices reports)[i]? = some n ∧ n.level = .debug ∧ n.message = "All services healthy")
        ∧ (∀ (i : Nat) r, reports[i]? = some r → r.isHealthy = true →
            (∃ first next, Stretch reports first next ∧ first ≤ i ∧ i < next)
            ∧ ∃ n, (notices reports)[i]? = some n ∧ n.fields = [("frame", toString r.frame)])
        ∧ ∀ (i : Nat) r, reports[i]? = some r → r.isHealthy = false →
            ∃ n, (notices reports)[i]? = some n ∧ n.level = .warn ∧ n.message = "Services unhealthy"
              ∧ n.fields = [("frame", toString r.frame), ("failing", r.failingText)])
      ∧ (∀ r : Report, r.failingText = ", ".intercalate ((r.services.filter fun h => !h.isHealthy).map fun h =>
            h.service.name ++ "(" ++ "+".intercalate h.reasons ++ ")")
        ∧ (∀ h ∈ r.services.filter fun h => !h.isHealthy, h.reasons ≠ [] ∧ ∀ reason, reason ∈ h.reasons ↔
            h.alive = false ∧ reason = "dead" ∨ h.freqOk = false ∧ reason = "slow"
              ∨ h.valid = false ∧ reason = "invalid")
        ∧ Report.readFailing? r.failingText = some (r.services.filter fun h => !h.isHealthy))
      ∧ ∀ r r' : Report, r.failing ≠ r'.failing → r.failingText ≠ r'.failingText := by
  refine ⟨?_, ?_, ?_, fun r r' hne htext => hne (Report.failingText_inj.mp htext)⟩
  · intro n b shutdown history
    -- A node begins without a report.
    have hbegin : (n.begin b shutdown).monitor.Recalls none := rfl
    exact (tellsHealth_log hbegin history).1
  · intro reports
    refine ⟨Report.length_noticesFrom none reports, fun i => Report.isNews_iff, ?_, ?_, ?_⟩
    · intro first next i hstretch hfirst hnext
      obtain ⟨r, -, hnotice⟩ := Report.notice_of_stretch hstretch hfirst hnext
      exact ⟨_, hnotice, rfl, rfl⟩
    · intro i r hr hhealthy
      obtain ⟨news, hnotice, -⟩ := Report.notice_of_isHealthy hr hhealthy
      exact ⟨Report.exists_stretch ((Report.isHealthyAt_of_getElem? hr).trans hhealthy), _, hnotice, rfl⟩
    · intro i r hr hunhealthy
      exact ⟨_, Report.notice_of_not_isHealthy hr hunhealthy, rfl, rfl, rfl⟩
  · intro r
    refine ⟨rfl, ?_, Report.readFailing?_failingText r⟩
    intro h hfailing
    have hunhealthy : h.isHealthy = false := by
      simpa using (List.mem_filter.mp hfailing).2
    exact ⟨Health.reasons_ne_nil hunhealthy, fun reason => Health.mem_reasons_iff⟩

end Clock

/-- Two services fail, one of them in two ways. -/
def faultyReport : Report :=
  ⟨4, [⟨.carState, false, true, false⟩, ⟨.userFlag, true, true, true⟩, ⟨.modelV2, true, false, true⟩]⟩

/-- Two healthy reports between others. -/
def mixedReports : List Report :=
  [faultyReport, ⟨9, [⟨.carState, true, true, true⟩]⟩, ⟨14, []⟩, ⟨19, [⟨.userFlag, true, true, false⟩]⟩]

/-- The first of the healthy reports is news and the second is not, and what fails is read from the first line. -/
theorem health_of_mixedReports : Stretch mixedReports 1 3
    ∧ (∃ n, (notices mixedReports)[1]? = some n ∧ n.level = .info ∧ n.message = "All services healthy")
    ∧ (∃ n, (notices mixedReports)[2]? = some n ∧ n.level = .debug ∧ n.message = "All services healthy")
    ∧ (∃ n, (notices mixedReports)[0]? = some n ∧ n.level = .warn ∧ n.message = "Services unhealthy"
      ∧ n.fields = [("frame", "4"), ("failing", "carState(dead+invalid), modelV2(slow)")])
    ∧ Report.readFailing? "carState(dead+invalid), modelV2(slow)" =
      some [⟨.carState, false, true, false⟩, ⟨.modelV2, true, false, true⟩] := by
  obtain ⟨-, hlines, htexts, -⟩ := health_of_log
  obtain ⟨-, hnews, hlater, -, hwarn⟩ := hlines mixedReports
  have hstretch : Stretch mixedReports 1 3 := by
    refine ⟨by decide, ?_, ?_, by decide⟩
    · intro i hfirst hnext
      have hi : i = 1 ∨ i = 2 := by omega
      rcases hi with rfl | rfl
      · decide
      · decide
    · intro i hi
      cases hi
      decide
  obtain ⟨-, -, hread⟩ := htexts faultyReport
  exact ⟨hstretch, (hnews 1).mpr ⟨3, hstretch⟩, hlater 1 3 2 hstretch (by decide) (by decide),
    hwarn 0 faultyReport rfl rfl, hread⟩

end Node.Work

end TopicHealth
