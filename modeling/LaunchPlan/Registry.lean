import LaunchPlan.Entity
import LaunchPlan.Log
import LaunchPlan.OrderedMap
import LaunchPlan.Text.Quoted

/-! # The registry of action tags

A tag in a description stands for a kind of action.  The registry holds a class and a factory
for every tag, in the order of registration.  Only classes of actions are accepted, and a tag
is registered once: a refused registration changes nothing.

A factory makes the action of an entity.  The registry only hands factories out (`build`), and
so they can be anything here.  For the actions that come with the registry the kind of the
action says what to make.
-/
namespace LaunchPlan

/-- The kinds of actions that a description can hold. -/
inductive ActionKind where
  /-- Setting an environment variable. -/
  | setVariable
  /-- Removing an environment variable. -/
  | unsetVariable
  /-- Setting a launch configuration. -/
  | setConfiguration
  /-- Declaring a launch argument. -/
  | declareArgument
  /-- Replacing all launch configurations. -/
  | resetConfigurations
  /-- Writing to the log. -/
  | log
  /-- Running a list of actions. -/
  | group
  /-- Requesting shutdown. -/
  | shutdown
  deriving DecidableEq

namespace ActionKind

/-- All kinds, in the order in which they are registered. -/
def all : List ActionKind :=
  [setVariable, unsetVariable, setConfiguration, declareArgument, resetConfigurations, log, group,
    shutdown]

/-- The class of the actions of a kind. -/
def toClass : ActionKind → Class
  | setVariable => Class.setEnvironmentVariable
  | unsetVariable => Class.unsetEnvironmentVariable
  | setConfiguration => Class.setLaunchConfiguration
  | declareArgument => Class.declareLaunchArgument
  | resetConfigurations => Class.resetLaunchConfigurations
  | log => Class.logInfo
  | group => Class.groupAction
  | shutdown => Class.shutdownAction

/-- The built-in tag of a kind. -/
def tag : ActionKind → String
  | setVariable => "set_env"
  | unsetVariable => "unset_env"
  | setConfiguration => "let"
  | declareArgument => "arg"
  | resetConfigurations => "reset"
  | log => "log"
  | group => "group"
  | shutdown => "shutdown"

/-- The kind of a built-in tag. -/
def ofTag? (tag : String) : Option ActionKind := all.find? (·.tag == tag)

end ActionKind

/-- What a tag is registered for. -/
structure Registration (φ : Type) where
  /-- The class given at the registration. -/
  actionClass : Class
  /-- What makes the actions that the tag stands for. -/
  factory : φ

/-- The tags known to a reader of descriptions. -/
structure Registry (φ : Type := ActionKind) where
  /-- The registrations by tag. -/
  registrations : OrderedMap (Registration φ)

/-- Why a registration is refused. -/
inductive RegistrationError where
  /-- The tag is registered for this class already. -/
  | duplicateTag (tag : String) (existing : Class)
  /-- The class is not a class of actions. -/
  | notAnAction (offending : Class)
  deriving DecidableEq

/-- The wording of a registration error. -/
def RegistrationError.message : RegistrationError → String
  | duplicateTag tag existing =>
    "Action tag '" ++ tag ++ "' is already registered to '" ++ existing.name ++ "'"
  | notAnAction offending => "Class '" ++ offending.name ++ "' is not an action class"

namespace Registry
variable {φ : Type}

/-- The registry without tags. -/
def empty : Registry φ := ⟨.empty⟩

/-- Registers a tag for a class and a factory in the registry that is the state, and answers with
the record of it.  The class is checked before the tag. -/
def registration (tag : String) (actionClass : Class) (factory : φ) :
    ExceptT RegistrationError (StateM (Registry φ)) Record := do
  if actionClass.derivesFrom Class.action then
    match (← get).registrations.get? tag with
    | some existing => throw (.duplicateTag tag existing.actionClass)
    | none =>
      modify fun r => ⟨r.registrations.insert tag ⟨actionClass, factory⟩⟩
      pure (.registered tag actionClass)
  else throw (.notAnAction actionClass)

/-- Registers a tag; the answer is the registry with the tag, and the record of it. -/
def register (r : Registry φ) (tag : String) (actionClass : Class) (factory : φ) :
    Except RegistrationError (Registry φ × Record) :=
  let (answer, left) := (registration tag actionClass factory).run.run r
  (fun record => (left, record)) <$> answer

/-- The registry of the built-in tags. -/
def builtin : Registry :=
  ⟨.ofList (ActionKind.all.map fun kind => (kind.tag, ⟨kind.toClass, kind⟩))⟩

/-- The records of registering the built-in tags. -/
def builtinRecords : List Record :=
  ActionKind.all.map fun kind => .registered kind.tag kind.toClass

/-- Whether a tag is registered. -/
def contains (r : Registry φ) (tag : String) : Bool := r.registrations.contains tag

/-- The class registered for a tag. -/
def classOf? (r : Registry φ) (tag : String) : Option Class :=
  (r.registrations.get? tag).map Registration.actionClass

/-- The tags in the order of their registration. -/
def tags (r : Registry φ) : List String := r.registrations.keys

/-- What the factory of a tag makes, when `make` says what each factory makes. -/
def build {α : Type} (r : Registry φ) (make : φ → Except ParseError α) (tag : String) :
    Except ParseError α :=
  match r.registrations.get? tag with
  | some registered => make registered.factory
  | none => .error (.unknownTag tag)

/-- The registry in words: every tag with its class. -/
def describe (r : Registry φ) : String :=
  "\x7b" ++ ", ".intercalate (r.registrations.entries.map fun entry =>
    Text.quote entry.1 ++ ": " ++ entry.2.actionClass.reference) ++ "\x7d"

end Registry
end LaunchPlan
