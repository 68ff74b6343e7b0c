import TopicHealth.Node.Work
import TopicHealth.Notice.Filter
import TopicHealth.Text.Integer
import TopicHealth.Text.Quoted

/-!
# The command line

The program takes the name of a configuration file and runs a node until its time is over. One variable of its
environment can force simulation mode, and another one filters the notices that are written.
-/

namespace TopicHealth.CommandLine

/-- What the program is started with. -/
structure Invocation where
  args : List String := []
  /-- The bytes of the variable that forces simulation mode, if it is set. -/
  simulation : Option (List UInt8) := none
  /-- The bytes of the variable that filters the notices, if it is set. -/
  filter : Option (List UInt8) := none

/-- Why the program stops before a node runs. -/
inductive Fault where
  | noFile
  | load (file : String) (fault : Node.Config.LoadFault)
  | simulationEncoding (bytes : List UInt8)
  | simulationNumber (text : String) (fault : Text.IntegerFault)
  | node (fault : Node.OpenFault)
deriving DecidableEq, Repr

/-- The texts of a fault, the outermost first. A duration over the range has none: the program breaks down. -/
def Fault.messages : Fault → List String
  | noFile => ["A configuration file is required.\nUsage: cadence-node /path/to/config.yaml"]
  | load file .unreadable => ["Failed to read config file: " ++ file]
  | load file .malformed => ["Failed to parse config file: " ++ file]
  | load _ .durationOverflow => []
  | load _ (.rejected fault) => fault.messages
  | simulationEncoding bytes =>
    ["Failed to read SIMULATION", "environment variable was not valid unicode: " ++ Text.quoteBytes bytes]
  | simulationNumber text fault => ["SIMULATION must be an integer, got '" ++ text ++ "'", fault.message]
  | node fault => fault.messages

/-- The causes of a fault as they are listed, with numbers if there are several. -/
def causeLines (causes : List String) : List String :=
  match causes with
  | [cause] => ["    " ++ cause]
  | causes => causes.zipIdx.map fun (cause, index) => s!"   {index}: " ++ cause

/-- The texts of a fault as they are written to the standard error output. -/
def errorText : List String → String
  | [] => ""
  | message :: causes =>
    "\n".intercalate (("Error: " ++ message) ::
      (if causes.isEmpty then [] else "" :: "Caused by:" :: causeLines causes))

/-- The filter of the notices; none if its text cannot be taken apart, on which the program breaks down. -/
def filterOf? (bytes : Option (List UInt8)) : Option Filter :=
  match bytes.map Utf8.decode with
  | some (.ok text) => match Filter.parse (String.ofList text) with
    | .ok filter => some filter
    | .error .malformed => some .standard
    | .error .cutCharacter => none
  | _ => some .standard

/-- Whether simulation mode is forced: the variable holds an integer that is not zero. -/
def forcesSimulation : Option (List UInt8) → Except Fault Bool
  | none => .ok false
  | some bytes => match Utf8.decode bytes with
    | .error _ => .error (.simulationEncoding bytes)
    | .ok text => match Text.integer (Text.trimBlank text) with
      | .ok n => .ok (n ≠ 0)
      | .error fault => .error (.simulationNumber (String.ofList text) fault)

/-- The configuration to run, from the name and the contents of the file, if there is one. -/
def configure (file : String) (contents : Option (List UInt8)) (simulation : Option (List UInt8)) :
    Except Fault Node.Config := do
  let c ← match contents with
    | none => .error (.load file .unreadable)
    | some bytes => (Node.Config.ofBytes bytes).mapError (.load file)
  if ← forcesSimulation simulation then
    return { c with tracker := { c.tracker with simulation := true } }
  else return c

/-- What is told of a configuration. -/
def loadedNotice (c : Node.Config) : Notice :=
  .configLoaded c.tracker.services.length c.feeds.length c.tick c.runFor c.tracker.simulation

/-- Everything up to a node that is about to work, from the contents of its file, if there is one. -/
def prepare (i : Invocation) (contents : Option (List UInt8)) : List Notice × Except Fault Node.Work :=
  match i.args with
  | [] => ([], .error .noFile)
  | file :: _ =>
    match configure file contents i.simulation with
    | .error fault => ([.configLoading file], .error fault)
    | .ok c =>
      match Node.open {} c with
      | ⟨_, notices, .error fault⟩ => (.configLoading file :: loadedNotice c :: notices, .error (.node fault))
      | ⟨b, notices, .ok n⟩ => (.configLoading file :: loadedNotice c :: notices, .ok (n.begin b false))

/-- How the program ends. -/
structure Exit where
  code : UInt8
  /-- The texts of the fault that ended it, the outermost first. -/
  messages : List String := []
  /-- What is told last. -/
  notices : List Notice := []

/-- The exit when the program breaks down. -/
def brokenExit : Exit := { code := 101 }

/-- The exit for a fault. -/
def Fault.exit (fault : Fault) : Exit :=
  match fault with
  | load _ .durationOverflow => brokenExit
  | fault => { code := 1, messages := fault.messages }

/-- The exit after the work of the node. -/
def exitAfter : Except Breakdown Report → Exit
  | .error _ => brokenExit
  | .ok report => { code := 0, notices := [.programEnding report.frame report.isHealthy] }

/-- The whole program on a clock that starts at an instant and moves on by `latency` with each turn of the node, of
which it takes `fuel` at most. Of the notices those are kept that pass the filter. -/
def run [Clock] (latency start : Duration) (fuel : Nat) (i : Invocation) (contents : Option (List UInt8)) :
    Option Exit :=
  match filterOf? i.filter with
  | none => some brokenExit
  | some filter =>
    let (notices, prepared) := prepare i contents
    let told (exit : Exit) (more : List Notice) : Exit :=
      { exit with notices := (notices ++ more ++ exit.notices).filter filter.passes }
    match prepared with
    | .error fault => some (told fault.exit [])
    | .ok w =>
      let (more, result) := w.run latency fuel start
      result.map fun r => told (exitAfter r) more

end TopicHealth.CommandLine
