import LaunchPlan.EnvironmentPatch
import LaunchPlan.Report.Json
import LaunchPlan.Report.Yaml
import LaunchPlan.Service

/-! # Reports

A report says what a run left behind: the launch configurations, the changes of the
environment, the reason of the shutdown and the number of actions.  It is written as lines of
text, or as data in JSON or YAML.
-/
namespace LaunchPlan

/-- What is told about a run. -/
structure Report where
  /-- The launch configurations at the end. -/
  configurations : OrderedMap String
  /-- What changed in the environment. -/
  changes : EnvironmentPatch
  /-- The reason of the shutdown, if there was one. -/
  shutdownReason : Option String
  /-- How many actions were visited. -/
  executed : Nat

/-- How a report is written. -/
inductive ReportFormat where
  /-- As lines of text. -/
  | text
  /-- As YAML. -/
  | yaml
  /-- As JSON. -/
  | json
  deriving DecidableEq

namespace ReportFormat

/-- The name of a format. -/
def name : ReportFormat → String
  | text => "text"
  | yaml => "yaml"
  | json => "json"

/-- The format of a name in small letters. -/
def ofName? (name : String) : Option ReportFormat := [text, yaml, json].find? (·.name == name)

end ReportFormat

namespace Report

/-- The report of an outcome, for a run that started in this environment. -/
def ofOutcome (o : Outcome) (initial : OrderedMap String) : Report where
  configurations := o.configurations
  changes := .between initial o.environment
  shutdownReason := o.shutdownReason
  executed := o.executed

/-- A report as lines of text. -/
def text (r : Report) : String :=
  "Actions executed: " ++ toString r.executed ++ "\n" ++ "Launch configurations:\n" ++
    String.join (r.configurations.entries.map fun e => "  " ++ e.1 ++ " = " ++ e.2 ++ "\n") ++
    "Environment changes:\n" ++
    String.join (r.changes.set.entries.map fun e => "  " ++ e.1 ++ "=" ++ e.2 ++ "\n") ++
    String.join (r.changes.unset.map fun name => "  unset " ++ name ++ "\n") ++
    match r.shutdownReason with
    | some reason => "Shutdown: " ++ reason ++ "\n"
    | none => ""

/-- The entries of a report as data. -/
def entries (r : Report) : List (String × Tree) :=
  [("launch_configurations", .ofEntries r.configurations.entries),
    ("environment_changes",
      .mapping [("set", .ofEntries r.changes.set.entries), ("unset", .texts r.changes.unset)]),
    ("shutdown_reason", .ofOption r.shutdownReason),
    ("actions_executed", .number r.executed)]

/-- A report in a format. -/
def render (r : Report) : ReportFormat → String
  | .text => r.text
  | .yaml => yamlEntries 0 r.entries
  | .json => (Tree.mapping r.entries).json 0

end Report
end LaunchPlan
