import LaunchPlan.Class

/-! # Events and handlers

An event is a fact about the launched system.  A handler names a class of events
and optionally one process; `EventHandler.wants` says which events it reacts to.
Handlers are told apart by their identity, not by what they hold.
-/
namespace LaunchPlan

/-- Something that happened to the launched system. -/
inductive Event where
  /-- A process was started. -/
  | processStarted (process : String) (pid : UInt32)
  /-- A process ended. -/
  | processExited (process : String) (pid : Option UInt32) (code : Option Int32)
  /-- Shutdown was requested. -/
  | shutdown (reason : String) (bySignal : Bool)
  deriving DecidableEq

namespace Event

/-- The class of an event. -/
def toClass : Event → Class
  | processStarted .. => Class.processStarted
  | processExited .. => Class.processExited
  | shutdown .. => Class.shutdownEvent

/-- The process an event is about. -/
def process? : Event → Option String
  | processStarted p _ => some p
  | processExited p _ _ => some p
  | shutdown .. => none

/-- An exit code as text; a process that a signal ended has none. -/
def describeCode : Option Int32 → String
  | some code => "Some(" ++ toString code.toInt ++ ")"
  | none => "None"

/-- An event in words. -/
def describe : Event → String
  | processStarted p pid => "process[" ++ p ++ "] started with pid " ++ toString pid.toNat
  | processExited p _ code => "process[" ++ p ++ "] exited with code " ++ describeCode code
  | shutdown reason _ => "shutdown requested: " ++ reason

end Event

/-- A handler of events, which runs actions of type `α`. -/
structure EventHandler (α : Type) where
  /-- What tells this handler from all others. -/
  id : String
  /-- The class of events it reacts to. -/
  eventClass : Class
  /-- The one process it reacts to, if it is restricted to one. -/
  target : Option String
  /-- The actions it runs. -/
  actions : List α

namespace EventHandler

variable {α : Type}

/-- Whether a handler reacts to an event: its class must be the event's or a base of
it, and a target must be the event's process. -/
def wants (h : EventHandler α) (e : Event) : Bool :=
  e.toClass.derivesFrom h.eventClass &&
    match h.target with
    | none => true
    | some p => e.process? == some p

/-- Restricts a handler to events about one process. -/
def withTarget (h : EventHandler α) (process : String) : EventHandler α :=
  { h with target := some process }

end EventHandler

/-- Why there is no handler for a class: it is not a class of events. -/
structure NotAnEventClass where
  /-- The class. -/
  offending : Class

/-- The wording of the error. -/
def NotAnEventClass.message (e : NotAnEventClass) : String :=
  "class '" ++ e.offending.name ++ "' is not an event class"

namespace EventHandler

/-- A handler for all events of a class, which must be a class of events. -/
def ofClass {α : Type} (id : String) (c : Class) (actions : List α) :
    Except NotAnEventClass (EventHandler α) :=
  if c.derivesFrom Class.event then .ok ⟨id, c, none, actions⟩ else .error ⟨c⟩

end EventHandler
end LaunchPlan
