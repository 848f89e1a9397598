import LaunchPlan.OrderedMap

/-! # Templates

Every text field of an action is a template: literal text mixed with parts whose
value is looked up only when the action runs.  A part names a launch
configuration or an environment variable; the name, and the default used when
there is no such name, are templates again.

`resolve` looks the parts up in two ordered maps, from left to right, the name
before the default; the first lookup that fails is the error.  `render` writes a
template back as text.
-/
namespace LaunchPlan

/-- A unit of deferred text. -/
inductive Substitution where
  /-- Literal text. -/
  | text (content : String)
  /-- The value of a launch configuration. -/
  | configuration (name : List Substitution) (default : Option (List Substitution))
  /-- The value of an environment variable. -/
  | variable (name : List Substitution) (default : Option (List Substitution))

/-- A sequence of units; its value is the concatenation of theirs. -/
abbrev Template := List Substitution

/-- What a template is resolved against. -/
structure Bindings where
  /-- The launch configurations. -/
  configurations : OrderedMap String
  /-- The environment of the launched processes. -/
  environment : OrderedMap String

/-- Why a template has no value. -/
inductive ResolutionError where
  /-- There is no launch configuration of this name, and no default. -/
  | undefinedConfiguration (name : String)
  /-- There is no environment variable of this name, and no default. -/
  | undefinedVariable (name : String)
  deriving DecidableEq

namespace ResolutionError

/-- The missing name. -/
def name : ResolutionError → String
  | undefinedConfiguration n => n
  | undefinedVariable n => n

/-- The wording of a resolution error. -/
def message : ResolutionError → String
  | undefinedConfiguration n => "launch configuration '" ++ n ++ "' does not exist"
  | undefinedVariable n => "environment variable '" ++ n ++ "' does not exist"

end ResolutionError

/-! ## Resolving -/

mutual

/-- The value of one unit. -/
def Substitution.resolve (b : Bindings) : Substitution → Except ResolutionError String
  | .text content => .ok content
  | .configuration name default => do
    let n ← Template.resolve b name
    match b.configurations.get? n with
    | some v => .ok v
    | none => Template.resolveDefault b (.undefinedConfiguration n) default
  | .variable name default => do
    let n ← Template.resolve b name
    match b.environment.get? n with
    | some v => .ok v
    | none => Template.resolveDefault b (.undefinedVariable n) default

/-- The value of a template. -/
def Template.resolve (b : Bindings) : List Substitution → Except ResolutionError String
  | [] => .ok ""
  | part :: rest => do
    let v ← part.resolve b
    let vs ← Template.resolve b rest
    .ok (v ++ vs)

/-- The value of a default for a name that is not there; without a default the
lookup fails with `missing`. -/
def Template.resolveDefault (b : Bindings) (missing : ResolutionError) :
    Option (List Substitution) → Except ResolutionError String
  | some default => Template.resolve b default
  | none => .error missing

end

/-! ## Writing a template as text -/

mutual

/-- One unit as text.  A variable whose default is the empty template is written
with the word `optenv` and without the default. -/
def Substitution.render : Substitution → String
  | .text content => content
  | .configuration name default =>
    "$(var " ++ Template.render name ++ Template.renderDefault default ++ ")"
  | .variable name (some []) => "$(optenv " ++ Template.render name ++ ")"
  | .variable name default =>
    "$(env " ++ Template.render name ++ Template.renderDefault default ++ ")"

/-- A template as text: its units one after the other. -/
def Template.render : List Substitution → String
  | [] => ""
  | part :: rest => part.render ++ Template.render rest

/-- A default as text, with the space that sets it off from the name. -/
def Template.renderDefault : Option (List Substitution) → String
  | some default => " " ++ Template.render default
  | none => ""

end

/-- The template that is one literal text. -/
def Template.literal (s : String) : Template := [.text s]

end LaunchPlan
