import LaunchPlan.Action.Basic
import LaunchPlan.Log

/-! # The context of a launch

The context is the state that all actions of a launch share: the launch
configurations and the environment, the configurations saved by open scopes, the
event being handled, the queue of events, the registered handlers, the reason of the
shutdown, and the log.  Emitting an event only queues it; nothing here runs an
action.
-/
namespace LaunchPlan

/-- The state that all actions of a launch share. -/
structure Context extends Bindings where
  /-- The launch configurations saved by open scopes, the innermost scope first. -/
  saved : List (OrderedMap String)
  /-- The event being handled, while its handlers run. -/
  current : Option Event
  /-- The events waiting to be dispatched, the next one first. -/
  pending : List Event
  /-- The registered handlers, in the order of their registrations. -/
  handlers : List Handler
  /-- The reason of the shutdown, once there is one. -/
  shutdownReason : Option String
  /-- Everything recorded so far. -/
  log : Array Record

namespace Context

/-- A context with this environment and nothing else. -/
def ofEnvironment (environment : OrderedMap String) : Context where
  configurations := .empty
  environment := environment
  saved := []
  current := none
  pending := []
  handlers := []
  shutdownReason := none
  log := #[]

/-- Adds a record to the log. -/
def note (c : Context) (r : Record) : Context := { c with log := c.log.push r }

/-- Sets an environment variable. -/
def setVariable (c : Context) (name value : String) : Context :=
  { c with environment := c.environment.insert name value }

/-- Removes an environment variable. -/
def unsetVariable (c : Context) (name : String) : Context :=
  { c with environment := c.environment.erase name }

/-- Sets a launch configuration. -/
def setConfiguration (c : Context) (name value : String) : Context :=
  { c with configurations := c.configurations.insert name value }

/-- Replaces all launch configurations. -/
def resetConfigurations (c : Context) (keep : OrderedMap String) : Context :=
  { c with configurations := keep }

/-- Saves the launch configurations for a scope. -/
def pushConfigurations (c : Context) : Context :=
  { c with saved := c.configurations :: c.saved }

/-- Restores the launch configurations of the innermost scope, if a scope is open. -/
def popConfigurations? (c : Context) : Option Context :=
  match c.saved with
  | [] => none
  | s :: rest => some { c with configurations := s, saved := rest }

/-- The number of open scopes. -/
def depth (c : Context) : Nat := c.saved.length

/-- Closes scopes until `depth` are left: the configurations that result, and the scopes
still open. -/
def closeScopes (depth : Nat) (configurations : OrderedMap String) :
    List (OrderedMap String) → OrderedMap String × List (OrderedMap String)
  | [] => (configurations, [])
  | s :: rest =>
    if depth < rest.length + 1 then closeScopes depth s rest else (configurations, s :: rest)

/-- Restores the launch configurations of all scopes but the outer `depth`. -/
def unwindTo (c : Context) (depth : Nat) : Context :=
  let (configurations, saved) := closeScopes depth c.configurations c.saved
  { c with configurations := configurations, saved := saved }

/-- Queues an event. -/
def emit (c : Context) (e : Event) : Context :=
  let c := c.note (.emitting e)
  { c with pending := c.pending ++ [e] }

/-- Takes the next event off the queue. -/
def takePending? (c : Context) : Option (Event × Context) :=
  match c.pending with
  | [] => none
  | e :: rest => some (e, { c with pending := rest })

/-- Runs `f` while `e` is the current event; afterwards the event that was current before
is so again. -/
def whileHandling {α : Type} (c : Context) (e : Event) (f : Context → Context × α) :
    Context × α :=
  let (c', a) := f { c with current := some e }
  ({ c' with current := c.current }, a)

/-- Registers a handler, behind those already registered. -/
def register (c : Context) (h : Handler) : Context := { c with handlers := c.handlers ++ [h] }

/-- Whether a handler is registered. -/
def isRegistered (c : Context) (h : Handler) : Bool := c.handlers.any (·.id == h.id)

/-- Removes every registration of a handler. -/
def unregister (c : Context) (h : Handler) : Context :=
  { c with handlers := c.handlers.filter (·.id != h.id) }

/-- The handlers that react to an event, in the order of their registrations. -/
def handlersFor (c : Context) (e : Event) : List Handler := c.handlers.filter (·.wants e)

/-- Whether the launch is shutting down. -/
def isShutdown (c : Context) : Bool := c.shutdownReason.isSome

/-- Records the reason of the shutdown. -/
def markShutdown (c : Context) (reason : String) : Context :=
  { c with shutdownReason := some reason }

end Context
end LaunchPlan
