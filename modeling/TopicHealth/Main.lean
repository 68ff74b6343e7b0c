import TopicHealth.CommandLine

/-!
# The program

Reads the configuration file and the environment, keeps the real clock and writes what is told.
-/

namespace TopicHealth.Program

/-- The time since a reading of the clock. -/
def clockSince (origin : Nat) : IO Duration := do
  return (Duration.ofNanos? ((← IO.monoNanosNow) - origin)).getD .zero

/-- Writes the notices that pass a filter. -/
def writeNotices (filter : Filter) (notices : List Notice) : IO Unit := do
  for n in notices do
    if filter.passes n then
      IO.println (n.target ++ ": " ++ n.line)

/-- Takes the turns of a node as they fall due. -/
partial def workOn (filter : Filter) (origin : Nat) (w : Node.Work) : IO (Except Breakdown Report) := do
  match w.result? with
  | some (.error reason) => return .error reason
  | some (.ok report) =>
    writeNotices filter (w.closingNotices report)
    return .ok report
  | none =>
    let now ← clockSince origin
    match w.next? now with
    | none =>
      IO.sleep 1000
      workOn filter origin w
    | some (actor, due) =>
      if now < due then
        IO.sleep (min ((due - now).toNanos / 10 ^ 6 + 1) 1000).toUInt32
        workOn filter origin w
      else
        let (notices, w) := w.step actor now
        writeNotices filter notices
        workOn filter origin w

/-- The bytes of a variable of the environment, if it is set. -/
def variableBytes (name : String) : IO (Option (List UInt8)) := do
  return (← IO.getEnv name).map fun text => Utf8.encode text.toList

/-- The bytes of the file that the arguments name, if it can be read. -/
def fileBytes (args : List String) : IO (Option (List UInt8)) := do
  match args with
  | [] => return none
  | file :: _ =>
    try
      return some (← IO.FS.readBinFile file).toList
    catch _ => return none

/-- Ends the program. -/
def leave (filter : Filter) (e : CommandLine.Exit) : IO UInt32 := do
  writeNotices filter e.notices
  unless e.messages.isEmpty do
    IO.eprintln (CommandLine.errorText e.messages)
  return e.code.toUInt32

/-- Runs the program on its arguments and gives its exit code. -/
def execute (args : List String) : IO UInt32 := do
  let origin ← IO.monoNanosNow
  let i : CommandLine.Invocation :=
    { args, simulation := ← variableBytes "SIMULATION", filter := ← variableBytes "RUST_LOG" }
  match CommandLine.filterOf? i.filter with
  | none => return CommandLine.brokenExit.code.toUInt32
  | some filter =>
    let (notices, prepared) := CommandLine.prepare i (← fileBytes args)
    writeNotices filter notices
    match prepared with
    | .error fault => leave filter fault.exit
    | .ok w => leave filter (CommandLine.exitAfter (← workOn filter origin w))

end TopicHealth.Program

def main (args : List String) : IO UInt32 := TopicHealth.Program.execute args
