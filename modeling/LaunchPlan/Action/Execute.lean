import LaunchPlan.Context

/-! # The effect of an action

`Action.execute` is the effect of one action on the context, all of it or an error.
`Action.visit` decides by the condition whether to execute.  How an action comes to
its effect, one step after the other, is `Action.perform`.

A group has no effect of its own: it yields the actions to visit next.  `visit_weight`
bounds what is yielded.
-/
namespace LaunchPlan

/-- Why an action fails. -/
inductive ActionError where
  /-- One of its texts has no value. -/
  | resolution (cause : ResolutionError)
  /-- A launch argument has neither a value nor a default. -/
  | missingArgument (name : String)
  /-- There are no saved launch configurations to restore. -/
  | unbalancedScope
  deriving DecidableEq

/-- The wording of an action's error. -/
def ActionError.message : ActionError → String
  | resolution cause => "Substitution failed: " ++ cause.message
  | missingArgument name => "Required launch argument '" ++ name ++ "' was not provided"
  | unbalancedScope => "No launch configuration scope to restore"

/-- The value of a template for an action. -/
def Context.value (c : Context) (t : Template) : Except ActionError String :=
  (Template.resolve c.toBindings t).mapError .resolution

/-- The values of the entries that a reset keeps, all resolved in the same context. -/
def Context.values (c : Context) :
    List (Template × Template) → Except ActionError (List (String × String))
  | [] => .ok []
  | (name, value) :: rest => do
    let n ← c.value name
    let v ← c.value value
    let others ← c.values rest
    .ok ((n, v) :: others)

/-- The record that precedes a shutdown requested while the end of a process is handled. -/
def Context.noteRequired (c : Context) : Context :=
  match c.current with
  | some (.processExited process _ _) => c.note (.wasRequired process)
  | _ => c

namespace Action

/-- What an action leaves: the context, and the actions to visit next if it is one that
yields actions. -/
abbrev Effect := Context × Option (List Action)

/-- The effect of an action, whatever its condition. -/
def execute (c : Context) : Action → Except ActionError Effect
  | setVariable _ name value => do
    let n ← c.value name
    let v ← c.value value
    .ok ((c.note (.settingVariable n v)).setVariable n v, none)
  | unsetVariable _ name => do
    let n ← c.value name
    if c.environment.contains n then
      .ok ((c.note (.unsettingVariable n)).unsetVariable n, none)
    else .ok (c, none)
  | setConfiguration _ name value => do
    let n ← c.value name
    let v ← c.value value
    .ok (c.setConfiguration n v, none)
  | declareArgument _ name default _ => do
    let n ← c.value name
    if c.configurations.contains n then .ok (c, none)
    else
      match default with
      | some d => do
        let v ← c.value d
        .ok (c.setConfiguration n v, none)
      | none => .error (.missingArgument n)
  | resetConfigurations _ keep => do
    let entries ← c.values (keptEntries keep)
    let kept := OrderedMap.ofList entries
    .ok ((c.note (.resetting kept.size)).resetConfigurations kept, none)
  | log _ message => do
    let m ← c.value message
    .ok (c.note (.said m), none)
  | group _ isScoped actions =>
    if isScoped then .ok (c, some (pushConfigurations :: (actions ++ [popConfigurations])))
    else .ok (c, some actions)
  | pushConfigurations => .ok (c.pushConfigurations, none)
  | popConfigurations =>
    match c.popConfigurations? with
    | some c' => .ok (c', none)
    | none => .error .unbalancedScope
  | shutdown _ reason => do
    let r ← c.value reason
    .ok (c.noteRequired.emit (.shutdown r false), none)
  | emit _ event => .ok (c.emit event, none)
  | register _ handler => .ok (c.register handler, none)
  | unregister _ handler =>
    if c.isRegistered handler then .ok (c.unregister handler, none)
    else .ok (c.note (.wasNotRegistered handler.eventClass), none)

/-- Whether the condition of an action lets it run. -/
def mayRun (c : Context) (a : Action) : Except ActionError Bool :=
  match a.condition with
  | none => .ok true
  | some condition => (condition.holds c.toBindings).mapError .resolution

/-- The effect of an action whose condition holds; otherwise only a record. -/
def visit (c : Context) (a : Action) : Except ActionError Effect := do
  if ← a.mayRun c then a.execute c else .ok (c.note (.skipped a.toClass), none)

/-- What an action yields weighs less than the action. -/
theorem execute_weight {c c' : Context} {a : Action} {next : List Action}
    (h : a.execute c = .ok (c', some next)) : totalWeight next < a.weight := by
  cases a <;>
    simp only [execute, bind, Except.bind] at h <;>
    repeat' split at h
  all_goals
    first
    | (simp only [Except.ok.injEq, Prod.mk.injEq, Option.some.injEq] at h
       obtain ⟨_, rfl⟩ := h
       simp [*, weight_group]
       try omega)
    | simp at h

/-- What an action yields when visited weighs less than the action. -/
theorem visit_weight {c c' : Context} {a : Action} {next : List Action}
    (h : a.visit c = .ok (c', some next)) : totalWeight next < a.weight := by
  simp only [visit, bind, Except.bind] at h
  split at h
  · simp at h
  · split at h
    · exact execute_weight h
    · simp at h

end Action

end LaunchPlan
