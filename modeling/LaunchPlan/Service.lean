import LaunchPlan.Action.Visit
import LaunchPlan.Description.Basic

/-! # The launch service

The service drives actions and events through one context.  `includeDescription` visits the actions
of a description; after each of them `drain` dispatches the queued events, first come first
served, until the queue is empty.  One drain dispatches at most `maxDispatches` events.
The first shutdown event marks the launch as shutting down: from then on no further action
of a description is visited, and later shutdown events are dropped.
-/
namespace LaunchPlan

/-- A launch in progress. -/
structure Service where
  /-- The state that all actions share. -/
  context : Context
  /-- How many events one drain may dispatch. -/
  maxDispatches : Nat
  /-- How many actions were visited, those skipped by a condition included. -/
  executed : Nat

/-- How a service is set up. -/
structure ServiceConfig where
  /-- The launch arguments: launch configurations set before anything runs. -/
  arguments : OrderedMap String
  /-- Whether the environment starts as that of the process. -/
  inheritEnvironment : Bool
  /-- How many events one drain may dispatch. -/
  maxDispatches : Nat

/-- The set-up for these launch arguments, with the environment of the process and the usual
bound on dispatches. -/
def ServiceConfig.ofArguments (arguments : OrderedMap String) : ServiceConfig where
  arguments := arguments
  inheritEnvironment := true
  maxDispatches := 1024

/-- Why a launch fails. -/
inductive ServiceError where
  /-- An action failed. -/
  | action (failure : Failure)
  /-- One drain met more events than it may dispatch. -/
  | dispatchLimit (limit : Nat)

/-- The wording of a service error. -/
def ServiceError.message : ServiceError → String
  | action f => "Action '" ++ f.action.describe ++ "' failed: " ++ f.cause.message
  | dispatchLimit limit =>
    "More than " ++ toString limit ++ " events dispatched in one pass, aborting"

/-- The summary of a launch. -/
structure Outcome where
  /-- The reason of the shutdown, if there was one. -/
  shutdownReason : Option String
  /-- How many actions were visited. -/
  executed : Nat
  /-- The launch configurations at the end. -/
  configurations : OrderedMap String
  /-- The environment at the end. -/
  environment : OrderedMap String

namespace Service

/-- A service for a set-up, in a process with this environment. -/
def ofConfig (config : ServiceConfig) (processEnvironment : OrderedMap String) : Service where
  context :=
    config.arguments.entries.foldl (fun c e => c.setConfiguration e.1 e.2)
      (Context.ofEnvironment
        (if config.inheritEnvironment then processEnvironment else .empty))
  maxDispatches := config.maxDispatches
  executed := 0

/-- Adds a record to the log. -/
def note (s : Service) (r : Record) : Service := { s with context := s.context.note r }

/-- Lets handlers handle an event one after the other; the first failure ends it. -/
def handleAll (e : Event) (s : Service) : List Handler → Service × Except ServiceError Unit
  | [] => (s, .ok ())
  | h :: rest =>
    match s.context.handle e h with
    | (c, .error f) => ({ s with context := c }, .error (.action f))
    | (c, .ok n) => handleAll e { s with context := c, executed := s.executed + n } rest

/-- Takes notice of an event that is a request to shut down: the first one marks the
shutdown.  The answer is `false` for a later one, which is dropped. -/
def acknowledge (s : Service) : Event → Service × Bool
  | .shutdown reason _ =>
    if s.context.isShutdown then (s.note (.shutdownIgnored reason), false)
    else
      let s := s.note (.shutdownRequested reason)
      ({ s with context := s.context.markShutdown reason }, true)
  | _ => (s, true)

/-- Dispatches an event that was taken off the queue to the handlers registered for it. -/
def dispatch (s : Service) (e : Event) : Service × Except ServiceError Unit :=
  match s.acknowledge e with
  | (s, false) => (s, .ok ())
  | (s, true) =>
    match s.context.handlersFor e with
    | [] => (s.note (.unhandled e), .ok ())
    | handlers => handleAll e s handlers

/-- Dispatches queued events until the queue is empty, but at most `budget`. -/
def drainWithin (budget : Nat) (s : Service) : Service × Except ServiceError Unit :=
  match s.context.takePending? with
  | none => (s, .ok ())
  | some (e, c) =>
    match budget with
    | 0 => ({ s with context := c }, .error (.dispatchLimit s.maxDispatches))
    | budget + 1 =>
      match dispatch { s with context := c } e with
      | (s, .ok ()) => drainWithin budget s
      | (s, .error err) => (s, .error err)

/-- Dispatches the queued events, and those that handlers queue, within the bound. -/
def drain (s : Service) : Service × Except ServiceError Unit := s.drainWithin s.maxDispatches

/-- Visits one action of a description and dispatches the events queued by then. -/
def visit (s : Service) (a : Action) : Service × Except ServiceError Unit :=
  match s.context.visitDepthFirst a with
  | (c, .error f) => ({ s with context := c }, .error (.action f))
  | (c, .ok n) => drain { s with context := c, executed := s.executed + n }

/-- Visits actions in order until the launch shuts down. -/
def visitUntilShutdown (s : Service) : List Action → Service × Except ServiceError Unit
  | [] => (s, .ok ())
  | a :: rest =>
    if s.context.isShutdown then (s.note (.leftOut (rest.length + 1)), .ok ())
    else
      match s.visit a with
      | (s, .ok ()) => visitUntilShutdown s rest
      | (s, .error err) => (s, .error err)

/-- Visits the actions of a description. -/
def includeDescription (s : Service) (d : Description) : Service × Except ServiceError Unit :=
  s.visitUntilShutdown d.actions

/-- Queues an event from outside and dispatches the queue. -/
def deliver (s : Service) (e : Event) : Service × Except ServiceError Unit :=
  drain { s with context := s.context.emit e }

/-- The summary of the launch so far. -/
def outcome (s : Service) : Outcome where
  shutdownReason := s.context.shutdownReason
  executed := s.executed
  configurations := s.context.configurations
  environment := s.context.environment

/-- Runs a description and reports the outcome. -/
def run (s : Service) (d : Description) : Service × Except ServiceError Outcome :=
  match (s.note (.launching d.size)).includeDescription d with
  | (s, .error err) => (s, .error err)
  | (s, .ok ()) =>
    (s.note (match s.context.shutdownReason with
      | some reason => .shutDown reason
      | none => .processed), .ok s.outcome)

end Service
end LaunchPlan
