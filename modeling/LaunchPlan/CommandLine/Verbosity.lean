import LaunchPlan.Log

/-! # Verbosity

Which records of the log are shown.
-/
namespace LaunchPlan

/-- How much of the log is shown. -/
inductive Verbosity where
  /-- Failures. -/
  | error
  /-- Warnings, too; there are none. -/
  | warn
  /-- The steps of the launch, too. -/
  | info
  /-- Details, too. -/
  | debug
  /-- Everything. -/
  | trace
  deriving DecidableEq

namespace Verbosity

/-- The name of a verbosity. -/
def name : Verbosity → String
  | error => "error"
  | warn => "warn"
  | info => "info"
  | debug => "debug"
  | trace => "trace"

/-- The verbosity of a name, in any case of letters; an unknown name stands for `info`. -/
def ofName (name : String) : Verbosity :=
  ([error, warn, info, debug, trace].find? fun v => v.name == Text.lower name).getD info

/-- Whether the records of a level are shown. -/
def shows (v : Verbosity) : Level → Bool
  | .error => true
  | .info | .user => v == info || v == debug || v == trace
  | .debug => v == debug || v == trace

end Verbosity
end LaunchPlan
