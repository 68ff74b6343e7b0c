import TopicHealth.Tracker.Basic

/-!
# Health reports

A report holds the three verdicts on each tracked service at one moment. A run of reports is told in notices: a
healthy report matters most when it is the first after something else, and an unhealthy one names what fails and
why.
-/

namespace TopicHealth

/-- The verdicts on one service. -/
structure Health where
  service : Service
  alive : Bool
  freqOk : Bool
  valid : Bool
deriving DecidableEq, Repr

namespace Health

/-- All three verdicts are good. -/
def isHealthy (h : Health) : Bool := h.alive && h.freqOk && h.valid

/-- A word for each verdict that is bad. -/
def reasons (h : Health) : List String :=
  (if h.alive then [] else ["dead"]) ++ (if h.freqOk then [] else ["slow"]) ++ (if h.valid then [] else ["invalid"])

/-- The service with its reasons. -/
def text (h : Health) : String := h.service.name ++ "(" ++ "+".intercalate h.reasons ++ ")"

end Health

/-- The verdicts on every tracked service at one moment. -/
structure Report where
  frame : Int
  services : List Health
deriving DecidableEq, Repr

namespace Report

/-- The report on a tracker, which asks about each service by itself. -/
def ofTracker (t : Tracker) : Report where
  frame := t.frame
  services := t.services.map fun s => ⟨s, t.allAlive (some [s]), t.allFreqOk (some [s]), t.allValid (some [s])⟩

/-- Every service is healthy. -/
def isHealthy (r : Report) : Bool := r.services.all Health.isHealthy

/-- The services that are not healthy. -/
def failing (r : Report) : List Health := r.services.filter fun h => !h.isHealthy

/-- The verdicts on a service. -/
def get? (r : Report) (s : Service) : Option Health := r.services.find? fun h => h.service = s

/-- The services that are not healthy, with their reasons. -/
def failingText (r : Report) : String := ", ".intercalate (r.failing.map Health.text)

/-- What is told of a report, given whether the report before it was healthy. -/
def notice (previous : Option Bool) (r : Report) : Notice :=
  if r.isHealthy then .allHealthy (previous != some true) r.frame else .unhealthy r.frame r.failingText

/-- What is told of a run of reports. -/
def noticesFrom : Option Bool → List Report → List Notice
  | _, [] => []
  | previous, r :: reports => r.notice previous :: noticesFrom (some r.isHealthy) reports

/-- What is told of a run of reports from its start. -/
def notices (reports : List Report) : List Notice := noticesFrom none reports

end Report

end TopicHealth
