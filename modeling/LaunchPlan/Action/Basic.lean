import LaunchPlan.Condition
import LaunchPlan.Event

/-! # Actions

An action is one step of a launch description.  All its texts are templates, which
are resolved only when it runs.  Every action but the two that save and restore the
launch configurations can carry a condition.
-/
namespace LaunchPlan

/-- A step of a launch description. -/
inductive Action where
  /-- Sets an environment variable. -/
  | setVariable (condition : Option Condition) (name value : Template)
  /-- Removes an environment variable; one that is not there is left alone. -/
  | unsetVariable (condition : Option Condition) (name : Template)
  /-- Sets a launch configuration. -/
  | setConfiguration (condition : Option Condition) (name value : Template)
  /-- Declares a launch argument: a launch configuration that keeps the value it has and
  otherwise gets the default. -/
  | declareArgument (condition : Option Condition) (name : Template)
      (default description : Option Template)
  /-- Replaces all launch configurations by the given ones. -/
  | resetConfigurations (condition : Option Condition)
      (keep : Option (List (Template × Template)))
  /-- Writes a message to the log. -/
  | log (condition : Option Condition) (message : Template)
  /-- Runs actions; a scoped group restores the launch configurations afterwards. -/
  | group (condition : Option Condition) (isScoped : Bool) (actions : List Action)
  /-- Saves the launch configurations. -/
  | pushConfigurations
  /-- Restores the launch configurations saved last. -/
  | popConfigurations
  /-- Requests shutdown. -/
  | shutdown (condition : Option Condition) (reason : Template)
  /-- Emits an event. -/
  | emit (condition : Option Condition) (event : Event)
  /-- Registers a handler. -/
  | register (condition : Option Condition) (handler : EventHandler Action)
  /-- Removes a handler; one that is not registered is left alone. -/
  | unregister (condition : Option Condition) (handler : EventHandler Action)

/-- A handler that runs actions. -/
abbrev Handler := EventHandler Action

namespace Action

/-- The condition of an action. -/
def condition : Action → Option Condition
  | setVariable c .. | unsetVariable c .. | setConfiguration c .. | declareArgument c ..
  | resetConfigurations c .. | log c .. | group c .. | shutdown c .. | emit c ..
  | register c .. | unregister c .. => c
  | pushConfigurations | popConfigurations => none

/-- The class of an action. -/
def toClass : Action → Class
  | setVariable .. => Class.setEnvironmentVariable
  | unsetVariable .. => Class.unsetEnvironmentVariable
  | setConfiguration .. => Class.setLaunchConfiguration
  | declareArgument .. => Class.declareLaunchArgument
  | resetConfigurations .. => Class.resetLaunchConfigurations
  | log .. => Class.logInfo
  | group .. => Class.groupAction
  | pushConfigurations => Class.pushLaunchConfigurations
  | popConfigurations => Class.popLaunchConfigurations
  | shutdown .. => Class.shutdownAction
  | emit .. => Class.emitEvent
  | register .. => Class.registerEventHandler
  | unregister .. => Class.unregisterEventHandler

/-- The entries that a reset keeps; without a list it keeps none. -/
def keptEntries (keep : Option (List (Template × Template))) : List (Template × Template) :=
  keep.getD []

mutual

/-- An action in words. -/
def describe : Action → String
  | setVariable _ name value =>
    "set_env " ++ Template.render name ++ "=" ++ Template.render value
  | unsetVariable _ name => "unset_env " ++ Template.render name
  | setConfiguration _ name value =>
    "let " ++ Template.render name ++ "=" ++ Template.render value
  | declareArgument _ name (some default) _ =>
    "arg " ++ Template.render name ++ " (default: " ++ Template.render default ++ ")"
  | declareArgument _ name none _ => "arg " ++ Template.render name
  | resetConfigurations _ keep =>
    "reset keep [" ++ ", ".intercalate ((keptEntries keep).map fun entry =>
      Template.render entry.1 ++ "=" ++ Template.render entry.2) ++ "]"
  | log _ message => "log \"" ++ Template.render message ++ "\""
  | group _ isScoped actions =>
    (if isScoped then "group (scoped) [" else "group [") ++
      "; ".intercalate (describeAll actions) ++ "]"
  | pushConfigurations => Class.pushLaunchConfigurations.name
  | popConfigurations => Class.popLaunchConfigurations.name
  | shutdown _ reason => "shutdown \"" ++ Template.render reason ++ "\""
  | emit _ event => "emit " ++ event.toClass.name
  | register _ handler => "on " ++ handler.eventClass.name ++ " register handler"
  | unregister _ handler => "on " ++ handler.eventClass.name ++ " unregister handler"

/-- Several actions in words. -/
def describeAll : List Action → List String
  | [] => []
  | a :: rest => a.describe :: describeAll rest

end

mutual

/-- How many visits an action takes at most: a scoped group counts the saving and the
restoring of the launch configurations besides itself. -/
def weight : Action → Nat
  | group _ isScoped actions => (if isScoped then 3 else 1) + totalWeight actions
  | _ => 1

/-- How many visits a list of actions takes at most. -/
def totalWeight : List Action → Nat
  | [] => 0
  | a :: rest => a.weight + totalWeight rest

end

@[simp] theorem totalWeight_nil : totalWeight [] = 0 := by simp [totalWeight]

@[simp] theorem totalWeight_cons (a : Action) (rest : List Action) :
    totalWeight (a :: rest) = a.weight + totalWeight rest := by
  simp [totalWeight]

@[simp] theorem totalWeight_append (l m : List Action) :
    totalWeight (l ++ m) = totalWeight l + totalWeight m := by
  induction l with
  | nil => simp
  | cons a rest ih => simp [ih, Nat.add_assoc]

@[simp] theorem weight_push : pushConfigurations.weight = 1 := by simp [weight]

@[simp] theorem weight_pop : popConfigurations.weight = 1 := by simp [weight]

theorem weight_group (c : Option Condition) (isScoped : Bool) (actions : List Action) :
    (group c isScoped actions).weight = (if isScoped then 3 else 1) + totalWeight actions := by
  simp [weight]

end Action
end LaunchPlan
