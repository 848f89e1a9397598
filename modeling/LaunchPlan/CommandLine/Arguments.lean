import LaunchPlan.CommandLine.Verbosity
import LaunchPlan.Report.Basic

/-! # Arguments of the command line

Options may stand before and behind the launch file, and two hyphens end them.  An option
that takes a value takes the next argument, whatever it is.  The first fault from the left is
the error; a request for help counts if there is no fault.
-/
namespace LaunchPlan

/-- What the command line asks for. -/
structure Arguments where
  /-- The launch file. -/
  launchFile : String
  /-- The launch arguments as given. -/
  overrides : List (String × String)
  /-- Whether the actions are only printed. -/
  isDryRun : Bool
  /-- Whether the launch file is only checked. -/
  isValidation : Bool
  /-- Whether the environment starts empty. -/
  startsEmpty : Bool
  /-- How the report is written. -/
  format : ReportFormat
  /-- How much of the log is asked for. -/
  logLevel : String

/-- The options that take a value. -/
inductive ValueOption where
  /-- A launch argument. -/
  | argument
  /-- The format of the report. -/
  | format
  /-- How much of the log is shown. -/
  | logLevel

/-- What is wrong with the value of an option. -/
inductive OptionFault where
  /-- A launch argument has no separator or no name. -/
  | notOverride (text : String)
  /-- There is no such format. -/
  | unknownFormat (name : String)
  /-- The option has a value already. -/
  | repeated
  deriving DecidableEq

/-- The wording of a fault. -/
def OptionFault.message : OptionFault → String
  | notOverride text => "Invalid argument format '" ++ text ++ "'. Expected 'key:=value'"
  | unknownFormat name => "Unknown format '" ++ name ++ "'. Expected text, yaml or json"
  | repeated => "duplicate values provided"

/-- Why the arguments are refused. -/
inductive UsageError where
  /-- There is no such option, or there is a second launch file. -/
  | unrecognized (argument : String)
  /-- An option has no value. -/
  | noValue (option : String)
  /-- The value of an option is wrong. -/
  | badValue (option value : String) (fault : OptionFault)
  /-- An option stands behind the request for help. -/
  | afterHelp
  deriving DecidableEq

/-- The wording of a usage error. -/
def UsageError.message : UsageError → String
  | unrecognized argument => "Unrecognized argument: " ++ argument ++ "\n"
  | noValue option => "No value provided for option '" ++ option ++ "'.\n"
  | badValue option value fault =>
    "Error parsing option '" ++ option ++ "' with value '" ++ value ++ "': " ++ fault.message ++
      "\n"
  | afterHelp => "Trailing arguments are not allowed after `help`."

/-- What the command line comes to. -/
inductive Request where
  /-- Something to do. -/
  | launch (arguments : Arguments)
  /-- The help text is asked for. -/
  | help

/-- Splits a text at the first colon that an equals sign follows. -/
def splitAssignment? : List Char → Option (List Char × List Char)
  | [] => none
  | ':' :: '=' :: value => some ([], value)
  | c :: rest => (splitAssignment? rest).map fun kv => (c :: kv.1, kv.2)

/-- The name and the value of a launch argument; the name may not be empty. -/
def parseOverride? (text : String) : Option (String × String) :=
  match splitAssignment? text.toList with
  | some (c :: key, value) => some (String.ofList (c :: key), String.ofList value)
  | _ => none

/-- The format that a value names, in any case of letters. -/
def parseFormat (value : String) : Except OptionFault ReportFormat :=
  match ReportFormat.ofName? (Text.lower value) with
  | some format => .ok format
  | none => .error (.unknownFormat (Text.lower value))

/-- The arguments read so far. -/
structure PartialArguments where
  /-- The launch file, if it was given. -/
  launchFile : Option String
  /-- The launch arguments, the last one first. -/
  overrides : List (String × String)
  /-- Whether the actions are only printed. -/
  isDryRun : Bool
  /-- Whether the launch file is only checked. -/
  isValidation : Bool
  /-- Whether the environment starts empty. -/
  startsEmpty : Bool
  /-- The format of the report, if it was given. -/
  format : Option ReportFormat
  /-- How much of the log is shown, if it was given. -/
  logLevel : Option String
  /-- Whether help was asked for. -/
  wantsHelp : Bool
  /-- Whether only launch files can follow. -/
  optionsEnded : Bool

namespace PartialArguments

/-- Nothing read yet. -/
def start : PartialArguments := ⟨none, [], false, false, false, none, none, false, false⟩

/-- What an option without a value changes, if there is such an option. -/
def switch? (p : PartialArguments) (option : String) : Option PartialArguments :=
  if option = "--dry-run" then some { p with isDryRun := true }
  else if option = "--validate" then some { p with isValidation := true }
  else if option = "--no-inherit-env" then some { p with startsEmpty := true }
  else none

/-- The option with a value that a name stands for. -/
def valueOption? (option : String) : Option ValueOption :=
  if option = "-a" ∨ option = "--arg" then some .argument
  else if option = "--format" then some .format
  else if option = "-l" ∨ option = "--log-level" then some .logLevel
  else none

/-- What an option with a value changes. -/
def fill (p : PartialArguments) (value : String) :
    ValueOption → Except OptionFault PartialArguments
  | .argument =>
    match parseOverride? value with
    | some kv => .ok { p with overrides := kv :: p.overrides }
    | none => .error (.notOverride value)
  | .format => do
    if p.format.isSome then .error .repeated
    else
      let format ← parseFormat value
      .ok { p with format := some format }
  | .logLevel =>
    if p.logLevel.isSome then .error .repeated else .ok { p with logLevel := some value }

/-- Reads the rest of the arguments. -/
def parse (p : PartialArguments) : List String → Except UsageError PartialArguments
  | [] => .ok p
  | a :: rest =>
    if ¬ p.optionsEnded ∧ (a = "--help" ∨ a = "help") then
      parse { p with wantsHelp := true } rest
    else if ¬ p.optionsEnded ∧ a.toList.head? = some '-' then
      if a = "--" then parse { p with optionsEnded := true } rest
      else if p.wantsHelp then .error .afterHelp
      else
        match p.switch? a, valueOption? a, rest with
        | some p, _, rest => parse p rest
        | none, none, _ => .error (.unrecognized a)
        | none, some _, [] => .error (.noValue a)
        | none, some option, value :: rest =>
          match p.fill value option with
          | .ok p => parse p rest
          | .error fault => .error (.badValue a value fault)
    else if p.launchFile.isSome then .error (.unrecognized a)
    else parse { p with launchFile := some a } rest

/-- The request that the arguments come to. -/
def finish (p : PartialArguments) : Request :=
  if p.wantsHelp then .help
  else
    .launch {
      launchFile := p.launchFile.getD "launch/default.launch.xml"
      overrides := p.overrides.reverse
      isDryRun := p.isDryRun
      isValidation := p.isValidation
      startsEmpty := p.startsEmpty
      format := p.format.getD .text
      logLevel := p.logLevel.getD "info" }

end PartialArguments

/-- The request that a command line makes. -/
def Request.parse (arguments : List String) : Except UsageError Request := do
  let p ← PartialArguments.start.parse arguments
  .ok p.finish

namespace Arguments

/-- The launch arguments by name; the last one of a name counts. -/
def launchArguments (a : Arguments) : OrderedMap String := .ofList a.overrides

/-- How the service is set up. -/
def toConfig (a : Arguments) : ServiceConfig :=
  { ServiceConfig.ofArguments a.launchArguments with inheritEnvironment := !a.startsEmpty }

/-- How much of the log is shown. -/
def verbosity (a : Arguments) : Verbosity := .ofName a.logLevel

end Arguments

/-- The help text. -/
def helpText : String :=
  "Usage: launch [-a <arg...>] [--dry-run] [--validate] [--no-inherit-env] " ++
  "[--format <format>] [-l <log-level>] [--] [<launch_file>]\n\n" ++
  "Run an XML or YAML launch description\n\n" ++
  "Positional Arguments:\n" ++
  "  launch_file       path to the launch file (.xml, .yaml or .yml)\n\n" ++
  "Options:\n" ++
  "  -a, --arg         set launch arguments (format: key:=value)\n" ++
  "  --dry-run         print the parsed actions without executing them\n" ++
  "  --validate        validate launch file and exit\n" ++
  "  --no-inherit-env  start from an empty environment instead of this process's\n" ++
  "  --format          report format (text, yaml, json)\n" ++
  "  -l, --log-level   log level (error, warn, info, debug, trace)\n" ++
  "  --help, help      display usage information\n"

end LaunchPlan
