import LaunchPlan.Action.Execute

/-! # Performing an action

An action works on the context one step after the other: it looks up the values of its
texts and writes what it changes.  `Action.perform` lists the steps of each action, and
`Action.attempt` puts the condition before them.  Steps that were taken are not taken
back when a later one fails.

Still an action that fails leaves the context as it was (`Action.on_attempt`): every action
looks up all that it needs before it writes anything.
-/
namespace LaunchPlan

/-- Work on the context, which can fail.  What it has changed by then stays changed. -/
abbrev ContextM := ExceptT ActionError (StateM Context)

namespace ContextM
variable {α β : Type}

/-- Does the work on a context: the context that it leaves, and the answer. -/
def on (work : ContextM α) (c : Context) : Context × Except ActionError α :=
  let (answer, left) := work.run.run c
  (left, answer)

/-- Looks something up in the context as it is by then. -/
def look (f : Context → Except ActionError α) : ContextM α := do
  match f (← get) with
  | .ok a => pure a
  | .error cause => throw cause

/-- What comes next finds the context that was left, and is not done after a failure. -/
theorem on_bind (work : ContextM α) (next : α → ContextM β) (c : Context) :
    (work >>= next).on c = match work.on c with
      | (d, .ok a) => (next a).on d
      | (d, .error cause) => (d, .error cause) := by
  simp only [on, ExceptT.run_bind, StateT.run_bind]
  rcases work.run.run c with ⟨_ | a, d⟩ <;> rfl

theorem on_get (c : Context) : (get : ContextM Context).on c = (c, .ok c) := rfl

theorem on_look (f : Context → Except ActionError α) (c : Context) :
    (look f).on c = (c, f c) := by
  rw [look, on_bind, on_get]
  dsimp only
  cases f c <;> rfl

end ContextM

namespace Action
open ContextM

/-- The map of the entries that a reset keeps, looked up and set one after the other. -/
def keptMap (kept : OrderedMap String) :
    List (Template × Template) → ContextM (OrderedMap String)
  | [] => pure kept
  | (name, value) :: rest => do
    let n ← look (·.value name)
    let v ← look (·.value value)
    keptMap (kept.insert n v) rest

/-- The steps of an action, whatever its condition. -/
def perform : Action → ContextM (Option (List Action))
  | setVariable _ name value => do
    let n ← look (·.value name)
    let v ← look (·.value value)
    modify (·.note (.settingVariable n v))
    modify (·.setVariable n v)
    return none
  | unsetVariable _ name => do
    let n ← look (·.value name)
    if (← get).environment.contains n then
      modify (·.note (.unsettingVariable n))
      modify (·.unsetVariable n)
      return none
    else return none
  | setConfiguration _ name value => do
    let n ← look (·.value name)
    let v ← look (·.value value)
    modify (·.setConfiguration n v)
    return none
  | declareArgument _ name default _ => do
    let n ← look (·.value name)
    if (← get).configurations.contains n then return none
    else
      match default with
      | some d =>
        let v ← look (·.value d)
        modify (·.setConfiguration n v)
        return none
      | none => throw (.missingArgument n)
  | resetConfigurations _ keep => do
    let kept ← keptMap .empty (keptEntries keep)
    modify (·.note (.resetting kept.size))
    modify (·.resetConfigurations kept)
    return none
  | log _ message => do
    let m ← look (·.value message)
    modify (·.note (.said m))
    return none
  | group _ isScoped actions => do
    if isScoped then return some (pushConfigurations :: (actions ++ [popConfigurations]))
    else return some actions
  | pushConfigurations => do
    modify (·.pushConfigurations)
    return none
  | popConfigurations => do
    match (← get).popConfigurations? with
    | some restored =>
      set restored
      return none
    | none => throw .unbalancedScope
  | shutdown _ reason => do
    let r ← look (·.value reason)
    modify (·.noteRequired)
    modify (·.emit (.shutdown r false))
    return none
  | emit _ event => do
    modify (·.emit event)
    return none
  | register _ handler => do
    modify (·.register handler)
    return none
  | unregister _ handler => do
    if (← get).isRegistered handler then
      modify (·.unregister handler)
      return none
    else
      modify (·.note (.wasNotRegistered handler.eventClass))
      return none

/-- The steps of an action if its condition holds; otherwise only a record. -/
def attempt (a : Action) : ContextM (Option (List Action)) := do
  if ← look a.mayRun then a.perform
  else
    modify (·.note (.skipped a.toClass))
    return none

end Action

/-! ## All or nothing -/

/-- What is left by work that has its whole effect or none: the new context if it succeeds,
and the old one if it fails. -/
def Context.settle {α : Type} (c : Context) :
    Except ActionError (Context × α) → Context × Except ActionError α
  | .ok (d, a) => (d, .ok a)
  | .error cause => (c, .error cause)

namespace Action
open ContextM

/-- The entries to keep are looked up in one context: setting them touches a map of its own. -/
theorem on_keptMap (c : Context) (kept : OrderedMap String) (l : List (Template × Template)) :
    (keptMap kept l).on c = (c, (c.values l).map fun entries =>
      entries.foldl (fun m e => m.insert e.1 e.2) kept) := by
  induction l generalizing kept with
  | nil => rfl
  | cons entry rest ih =>
    obtain ⟨name, value⟩ := entry
    rw [keptMap, Context.values, on_bind, on_look]
    cases c.value name with
    | error cause => rfl
    | ok n =>
      dsimp only
      rw [on_bind, on_look]
      cases c.value value with
      | error cause => rfl
      | ok v =>
        dsimp only
        rw [ih]
        cases c.values rest <;> rfl

/-- **The steps of an action have its whole effect or none.** -/
theorem on_perform (a : Action) (c : Context) : a.perform.on c = c.settle (a.execute c) := by
  cases a with
  | setVariable cond name value | setConfiguration cond name value =>
    rw [perform, execute, on_bind, on_look]
    cases c.value name with
    | error cause => rfl
    | ok n =>
      dsimp only
      rw [on_bind, on_look]
      cases c.value value <;> rfl
  | unsetVariable cond name =>
    rw [perform, execute, on_bind, on_look]
    cases c.value name with
    | error cause => rfl
    | ok n =>
      show ContextM.on (if c.environment.contains n then _ else _) c = c.settle (if _ then _ else _)
      split <;> rfl
  | declareArgument cond name default description =>
    rw [perform, execute, on_bind, on_look]
    cases c.value name with
    | error cause => rfl
    | ok n =>
      show ContextM.on (if c.configurations.contains n then _ else _) c =
        c.settle (if _ then _ else _)
      split
      · rfl
      · cases default with
        | none => rfl
        | some d =>
          dsimp only
          rw [on_bind, on_look]
          cases c.value d <;> rfl
  | resetConfigurations cond keep =>
    rw [perform, execute, on_bind, on_keptMap]
    cases c.values (keptEntries keep) <;> rfl
  | log cond message =>
    rw [perform, execute, on_bind, on_look]
    cases c.value message <;> rfl
  | group cond isScoped actions => cases isScoped <;> rfl
  | pushConfigurations => rfl
  | popConfigurations =>
    rw [perform, execute, on_bind, on_get]
    dsimp only
    cases c.popConfigurations? <;> rfl
  | shutdown cond reason =>
    rw [perform, execute, on_bind, on_look]
    cases c.value reason <;> rfl
  | emit | register => rfl
  | unregister cond handler =>
    show ContextM.on (if c.isRegistered handler then _ else _) c = c.settle (if _ then _ else _)
    split <;> rfl

/-- **An action that is attempted has its whole effect**, or fails and leaves the context as it
was. -/
theorem on_attempt (a : Action) (c : Context) : a.attempt.on c = c.settle (a.visit c) := by
  rw [attempt, visit, on_bind, on_look]
  cases a.mayRun c with
  | error cause => rfl
  | ok runs =>
    cases runs with
    | false => rfl
    | true => exact on_perform a c

/-- What an action yields weighs less than the action. -/
theorem attempt_weight {c c' : Context} {a : Action} {next : List Action}
    (h : a.attempt.on c = (c', .ok (some next))) : totalWeight next < a.weight := by
  rw [on_attempt] at h
  cases hv : a.visit c with
  | error cause =>
    rw [hv] at h
    cases h
  | ok effect =>
    rw [hv] at h
    obtain ⟨d, yielded⟩ := effect
    cases h
    exact visit_weight hv

end Action
end LaunchPlan
