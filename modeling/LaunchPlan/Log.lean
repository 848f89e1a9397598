import LaunchPlan.Event
import LaunchPlan.Markup

/-! # Log records

Everything worth telling about a launch is a record.  A record says what happened;
`message` has the words and `level` the importance.
-/
namespace LaunchPlan

/-- How important a record is. -/
inductive Level where
  /-- A failure. -/
  | error
  /-- A step of the launch. -/
  | info
  /-- A message that the description itself writes; as important as `info`. -/
  | user
  /-- A detail. -/
  | debug
  deriving DecidableEq

/-- Something worth telling about a launch. -/
inductive Record where
  /-- A tag was registered for a class of actions. -/
  | registered (tag : String) (actionClass : Class)
  /-- A launch file is about to be read. -/
  | loading (path : String)
  /-- The document is read and its root is known. -/
  | rooted (markup : Markup) (name : String)
  /-- A description with so many actions was read. -/
  | parsed (count : Nat)
  /-- A description with so many actions was read from a file. -/
  | loaded (count : Nat) (path : String)
  /-- The launch file could not be used. -/
  | loadFailed (reason : String)
  /-- A description with so many actions starts to run. -/
  | launching (count : Nat)
  /-- So many actions are left out because of the shutdown. -/
  | leftOut (count : Nat)
  /-- The run ended with a shutdown. -/
  | shutDown (reason : String)
  /-- The run ended. -/
  | processed
  /-- The run failed. -/
  | launchFailed (reason : String)
  /-- An action was skipped. -/
  | skipped (actionClass : Class)
  /-- An environment variable is set. -/
  | settingVariable (name value : String)
  /-- An environment variable is removed. -/
  | unsettingVariable (name : String)
  /-- The launch configurations are replaced by so many. -/
  | resetting (count : Nat)
  /-- The description wrote a message. -/
  | said (message : String)
  /-- The end of a process makes the system shut down. -/
  | wasRequired (process : String)
  /-- An event is queued. -/
  | emitting (event : Event)
  /-- A handler to remove was not there. -/
  | wasNotRegistered (eventClass : Class)
  /-- The first request to shut down is taken. -/
  | shutdownRequested (reason : String)
  /-- A later request to shut down is ignored. -/
  | shutdownIgnored (reason : String)
  /-- No handler reacts to an event. -/
  | unhandled (event : Event)
  deriving DecidableEq

namespace Record

/-- The importance of a record. -/
def level : Record → Level
  | loadFailed _ | launchFailed _ => .error
  | said _ => .user
  | loading _ | launching _ | leftOut _ | shutDown _ | processed | wasRequired _
  | shutdownRequested _ => .info
  | _ => .debug

/-- The words of a record. -/
def message : Record → String
  | registered tag c => "registered action tag '" ++ tag ++ "' -> " ++ c.name
  | loading path => "Loading launch file: " ++ path
  | rooted .xml name => "parsing XML launch description rooted at <" ++ name ++ ">"
  | rooted .yaml name => "parsing YAML launch description rooted at '" ++ name ++ "'"
  | parsed n => "parsed launch description with " ++ toString n ++ " entities"
  | loaded n path => "Loaded " ++ toString n ++ " entities from " ++ path
  | loadFailed reason => "Failed to load launch file: " ++ reason
  | launching n => "Launching " ++ toString n ++ " entities..."
  | leftOut n => "Shutting down, skipping " ++ toString n ++ " remaining entities"
  | shutDown reason => "Launch shut down: " ++ reason
  | processed => "Launch description processed"
  | launchFailed reason => "Launch failed: " ++ reason
  | skipped c => "skipping " ++ c.name ++ ": condition not met"
  | settingVariable name value => "setting environment variable " ++ name ++ "=" ++ value
  | unsettingVariable name => "unsetting environment variable " ++ name
  | resetting n => "resetting launch configurations, keeping " ++ toString n ++ " entries"
  | said m => m
  | wasRequired p => "process[" ++ p ++ "] was required: shutting down launched system"
  | emitting e => "emitting event: " ++ e.describe
  | wasNotRegistered c => "handler for " ++ c.name ++ " was not registered"
  | shutdownRequested reason => "Shutdown requested: " ++ reason
  | shutdownIgnored reason => "Already shutting down, ignoring shutdown: " ++ reason
  | unhandled e => "No handler for event: " ++ e.describe

end Record
end LaunchPlan
