import LaunchPlan.CommandLine.Run

/-! # The command

Runs a launch description from the command line.  Everything that can go wrong or be decided
is in `runCommand`; here its inputs are read and its transcript is written.
-/
namespace LaunchPlan

/-- The name and the value of a variable as the system gives them. -/
def namedValue? (entry : String) : Option (String × String) :=
  match entry.splitOn "=" with
  | name :: value :: rest => some (name, "=".intercalate (value :: rest))
  | _ => none

/-- The environment of the process. -/
def processEnvironment : IO (OrderedMap String) := do
  let octets ← IO.FS.readBinFile "/proc/self/environ"
  let entries := ((String.fromUTF8? octets).getD "").splitOn "\x00"
  return .ofList (entries.filterMap namedValue?)

/-- The name of a level in the log. -/
def Level.label : Level → String
  | error => "ERROR"
  | info | user => "INFO"
  | debug => "DEBUG"

/-- The text of a file, if it can be read. -/
def readText? (path : String) : IO (Option String) := do
  try return some (← IO.FS.readFile path) catch _ => return none

/-- Runs the command line: reads the launch file, prints and logs. -/
def command (arguments : List String) : IO UInt32 := do
  let environment ← processEnvironment
  let source ←
    match Request.parse arguments with
    | .ok (.launch a) => readText? a.launchFile
    | _ => pure none
  let t := runCommand arguments environment fun _ => source
  for r in t.records do
    IO.eprintln ("[" ++ r.level.label ++ "] " ++ r.terminalText)
  if let some text := t.complaint then IO.eprint text
  IO.print t.output
  return if t.succeeds then 0 else 1

end LaunchPlan

/-- The entry point of the program. -/
def main (arguments : List String) : IO UInt32 := LaunchPlan.command arguments
