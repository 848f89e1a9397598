import LaunchPlan.Description.Basic
import LaunchPlan.Entity
import LaunchPlan.Registry

/-! # From entities to descriptions

The tag of an entity decides which kind of action it is; the kind decides which attributes
are read, and in which order (`Entity.make`).  Whatever is wrong first is the error, and a
description is read completely before anything runs.  `Entity.toAction` follows the tree of
entities: only groups have actions inside.
-/
namespace LaunchPlan
namespace Entity

/-- The condition that the attributes `if` and `unless` give. -/
def condition? (e : Entity) : Except ParseError (Option Condition) := do
  match ← e.text? "if", ← e.text? "unless" with
  | some _, some _ => .error (.invalidValue e.tag "if" .bothConditions)
  | some input, none => (fun t => some (.onlyIf t)) <$> readTemplate input
  | none, some input => (fun t => some (.unless t)) <$> readTemplate input
  | none, none => .ok none

/-- The name and the value of an entity. -/
def nameAndValue (e : Entity) : Except ParseError (Template × Template) := do
  let name ← e.template "name"
  let value ← e.template "value"
  .ok (name, value)

/-- The names and values of several entities. -/
def namesAndValues : List Entity → Except ParseError (List (Template × Template))
  | [] => .ok []
  | e :: rest => do
    let entry ← e.nameAndValue
    let entries ← namesAndValues rest
    .ok (entry :: entries)

/-- The entries that a reset keeps. -/
def keep? (e : Entity) : Except ParseError (Option (List (Template × Template))) := do
  match ← e.entities? "keep" with
  | some items => some <$> namesAndValues items
  | none => .ok none

/-- The reason of a shutdown that gives none. -/
def defaultReason : Template := Template.literal "reason not given"

/-- The action of a kind, made of an entity; `inside` reads its children as actions. -/
def make (e : Entity) (inside : Unit → Except ParseError (List Action)) :
    ActionKind → Except ParseError Action
  | .setVariable => do
    let condition ← e.condition?
    let (name, value) ← e.nameAndValue
    .ok (.setVariable condition name value)
  | .unsetVariable => do
    let condition ← e.condition?
    let name ← e.template "name"
    .ok (.unsetVariable condition name)
  | .setConfiguration => do
    let condition ← e.condition?
    let (name, value) ← e.nameAndValue
    .ok (.setConfiguration condition name value)
  | .declareArgument => do
    let condition ← e.condition?
    let name ← e.template "name"
    let default ← e.template? "default"
    let description ← e.template? "description"
    .ok (.declareArgument condition name default description)
  | .resetConfigurations => do
    let condition ← e.condition?
    let keep ← e.keep?
    .ok (.resetConfigurations condition keep)
  | .log => do
    let condition ← e.condition?
    let message ← e.template "message"
    .ok (.log condition message)
  | .group => do
    let condition ← e.condition?
    let isScoped ← e.boolean? "scoped"
    let actions ← inside ()
    .ok (.group condition (isScoped.getD true) actions)
  | .shutdown => do
    let condition ← e.condition?
    let reason ← e.template? "reason"
    .ok (.shutdown condition (reason.getD defaultReason))

mutual

/-- The action that an entity stands for. -/
def toAction (r : Registry) : Entity → Except ParseError Action
  | ⟨tag, children, attr?⟩ =>
    r.build (make ⟨tag, children, attr?⟩ fun _ => childActions r children) tag

/-- The actions that the children of an entity stand for. -/
def childActions (r : Registry) : Except ParseError (List Entity) → Except ParseError (List Action)
  | .ok children => toActions r children
  | .error err => .error err

/-- The actions that several entities stand for. -/
def toActions (r : Registry) : List Entity → Except ParseError (List Action)
  | [] => .ok []
  | e :: rest => do
    let action ← toAction r e
    let actions ← toActions r rest
    .ok (action :: actions)

end

/-- An entity is handed to the factory of its tag. -/
theorem toAction_eq_build (r : Registry) (e : Entity) :
    e.toAction r = r.build (e.make fun _ => childActions r e.children) e.tag := by
  cases e
  rw [toAction]

/-- The description that a root entity stands for. -/
def toDescription (r : Registry) (e : Entity) : Except ParseError Description := do
  if e.tag = "launch" then
    let actions ← childActions r e.children
    .ok ⟨actions⟩
  else .error (.unexpectedRoot e.tag)

end Entity
end LaunchPlan
