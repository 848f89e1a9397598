import LaunchPlan.CommandLine.Arguments
import LaunchPlan.Description.Source

/-! # Running a command line

What a command line does, as a function of the arguments, the environment of the process and
the texts of files.  The answer is a transcript: what is printed, what is logged, and whether
the command succeeds.
-/
namespace LaunchPlan

/-- What a command leaves behind. -/
structure Transcript where
  /-- Whether the command succeeds. -/
  succeeds : Bool
  /-- What is printed. -/
  output : String
  /-- What is told about wrong usage. -/
  complaint : Option String
  /-- The records that are shown. -/
  records : List Record

/-- The words of a record on a terminal: further lines are indented by four spaces. -/
def Record.terminalText (r : Record) : String :=
  String.ofList (r.message.toList.flatMap fun c => if c = '\n' then "\n    ".toList else [c])

namespace Transcript

/-- The transcript of a refused command line. -/
def refused (err : UsageError) : Transcript where
  succeeds := false
  output := ""
  complaint := some (err.message ++ "\nRun launch --help for more information.\n")
  records := []

/-- The transcript of a request for help. -/
def helping : Transcript := ⟨true, helpText ++ "\n", none, []⟩

/-- The transcript of a command that logs and prints; only some records are shown. -/
def logged (v : Verbosity) (succeeds : Bool) (output : String) (records : List Record) :
    Transcript :=
  ⟨succeeds, output, none, records.filter fun r => v.shows r.level⟩

end Transcript

namespace Arguments

/-- What is printed about a launch file that is only checked. -/
def validationText (a : Arguments) (d : Description) : String :=
  "Launch file '" ++ a.launchFile ++ "' is valid\n  Actions: " ++ toString d.size ++ "\n"

/-- Launches a description: the report or the failure, and the records. -/
def launch (a : Arguments) (environment : OrderedMap String) (d : Description) :
    List Record × Except ServiceError Report :=
  let service := Service.ofConfig a.toConfig environment
  match service.run d with
  | (s, .ok o) => (s.context.log.toList, .ok (.ofOutcome o service.context.environment))
  | (s, .error err) => (s.context.log.toList, .error err)

/-- Does what the arguments ask for. -/
def run (a : Arguments) (environment : OrderedMap String) (read? : String → Option String) :
    Transcript :=
  let tell := Transcript.logged a.verbosity
  let (records, loaded) := loadDescription Registry.builtin read? a.launchFile
  let records := Registry.builtinRecords ++ .loading a.launchFile :: records
  match loaded with
  | .error err => tell false "" (records ++ [.loadFailed err.explain])
  | .ok d =>
    if a.isValidation then tell true (a.validationText d) records
    else if a.isDryRun then tell true d.render records
    else
      match a.launch environment d with
      | (launched, .ok report) => tell true (report.render a.format) (records ++ launched)
      | (launched, .error err) =>
        tell false "" (records ++ launched ++ [.launchFailed err.message])

end Arguments

/-- Runs a command line. -/
def runCommand (arguments : List String) (environment : OrderedMap String)
    (read? : String → Option String) : Transcript :=
  match Request.parse arguments with
  | .error err => .refused err
  | .ok .help => .helping
  | .ok (.launch a) => a.run environment read?

end LaunchPlan
