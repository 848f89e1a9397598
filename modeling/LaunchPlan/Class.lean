/-! # Classes

Actions and events belong to classes, and every class but a root derives from one
base class.  Handlers select events by class, and a registry accepts only classes
of actions.

A class is known by what it is, not by its name: two classes made apart differ in
their serial number even if their names and bases agree.  The built-in classes have
the serial number 0.  `derivesFrom` is the order of the hierarchy; `derivesFrom_iff`
says it is membership in the chain of bases.
-/
namespace LaunchPlan

/-- A class of actions or events. -/
inductive Class where
  /-- A class without a base. -/
  | root (serial : Nat) (name : String)
  /-- A class that derives from a base. -/
  | derived (serial : Nat) (name : String) (base : Class)
  deriving DecidableEq

namespace Class

/-- The name of a class. -/
def name : Class → String
  | root _ n => n
  | derived _ n _ => n

/-- The base of a class, unless it is a root. -/
def base? : Class → Option Class
  | root .. => none
  | derived _ _ b => some b

/-- The class itself, its base, the base of its base, up to the root. -/
def chain : Class → List Class
  | root s n => [root s n]
  | derived s n b => derived s n b :: b.chain

/-- Whether a class is another one or derives from it. -/
def derivesFrom : Class → Class → Bool
  | root s n, d => root s n == d
  | derived s n b, d => derived s n b == d || b.derivesFrom d

theorem derivesFrom_iff (c d : Class) : c.derivesFrom d = true ↔ d ∈ c.chain := by
  induction c with
  | root s n =>
    simp only [derivesFrom, chain, beq_iff_eq, List.mem_singleton]
    exact eq_comm
  | derived s n b ih =>
    simp only [derivesFrom, chain, beq_iff_eq, Bool.or_eq_true, List.mem_cons, ih]
    exact or_congr_left eq_comm

/-- A class in the notation of references to it. -/
def reference (c : Class) : String := "<class '" ++ c.name ++ "'>"

/-! ## The built-in classes -/

/-- The root of all classes of actions. -/
def action : Class := root 0 "Action"

/-- Setting an environment variable. -/
def setEnvironmentVariable : Class := derived 0 "SetEnvironmentVariable" action

/-- Removing an environment variable. -/
def unsetEnvironmentVariable : Class := derived 0 "UnsetEnvironmentVariable" action

/-- Setting a launch configuration. -/
def setLaunchConfiguration : Class := derived 0 "SetLaunchConfiguration" action

/-- Declaring a launch argument. -/
def declareLaunchArgument : Class := derived 0 "DeclareLaunchArgument" action

/-- Replacing all launch configurations. -/
def resetLaunchConfigurations : Class := derived 0 "ResetLaunchConfigurations" action

/-- Writing a message to the log. -/
def logInfo : Class := derived 0 "LogInfo" action

/-- Running a list of actions. -/
def groupAction : Class := derived 0 "GroupAction" action

/-- Saving the launch configurations. -/
def pushLaunchConfigurations : Class := derived 0 "PushLaunchConfigurations" action

/-- Restoring the launch configurations saved last. -/
def popLaunchConfigurations : Class := derived 0 "PopLaunchConfigurations" action

/-- Emitting an event. -/
def emitEvent : Class := derived 0 "EmitEvent" action

/-- Requesting shutdown, which is a way of emitting an event. -/
def shutdownAction : Class := derived 0 "Shutdown" emitEvent

/-- Registering an event handler. -/
def registerEventHandler : Class := derived 0 "RegisterEventHandler" action

/-- Unregistering an event handler. -/
def unregisterEventHandler : Class := derived 0 "UnregisterEventHandler" action

/-- The root of all classes of events. -/
def event : Class := root 0 "Event"

/-- Events about a process. -/
def processEvent : Class := derived 0 "ProcessEvent" event

/-- The start of a process. -/
def processStarted : Class := derived 0 "ProcessStarted" processEvent

/-- The end of a process. -/
def processExited : Class := derived 0 "ProcessExited" processEvent

/-- The request to shut down. -/
def shutdownEvent : Class := derived 0 "Shutdown" event

end Class
end LaunchPlan
