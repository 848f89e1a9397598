import LaunchPlan.Action.Perform

/-! # Running actions

`Context.visitAll` works through a list of actions with a work list, on which what an
action yields goes before the rest.  Each action is attempted on the context that the
one before it left; the first that fails ends the work, and the scopes opened since
the beginning are closed on the context that it left.  What is yielded weighs less
than the action, so the work ends.
-/
namespace LaunchPlan

/-- The action that made a visit fail, and why. -/
structure Failure where
  /-- The action that failed. -/
  action : Action
  /-- Why it failed. -/
  cause : ActionError

namespace Context

/-- Visits the actions of a work list, and all they yield, in order.  The answer counts the
visits, beginning with `visited`; a failure closes all scopes but the outer `depth`. -/
def visitAll (depth : Nat) (c : Context) (visited : Nat) (work : List Action) :
    Context × Except Failure Nat :=
  match work with
  | [] => (c, .ok visited)
  | a :: rest =>
    match _h : a.attempt.on c with
    | (c', .error cause) => (c'.unwindTo depth, .error ⟨a, cause⟩)
    | (c', .ok none) => visitAll depth c' (visited + 1) rest
    | (c', .ok (some next)) => visitAll depth c' (visited + 1) (next ++ rest)
  termination_by Action.totalWeight work
  decreasing_by
    · have : 0 < a.weight := by cases a <;> simp [Action.weight] ; split <;> omega
      simp; omega
    · have := Action.attempt_weight _h
      simp; omega

/-- What the loop does with the first action of the list, in terms of its effect. -/
theorem visitAll_cons (depth : Nat) (c : Context) (visited : Nat) (a : Action)
    (rest : List Action) : visitAll depth c visited (a :: rest) =
      match a.visit c with
      | .error cause => (c.unwindTo depth, .error ⟨a, cause⟩)
      | .ok (c', none) => visitAll depth c' (visited + 1) rest
      | .ok (c', some next) => visitAll depth c' (visited + 1) (next ++ rest) := by
  have hattempt := a.on_attempt c
  rw [visitAll]
  cases hv : a.visit c with
  | error cause =>
    rw [hv] at hattempt
    split <;> simp_all [settle]
  | ok effect =>
    rw [hv] at hattempt
    obtain ⟨c', _ | next⟩ := effect <;> split <;> simp_all [settle]

/-- Visits an action and everything it yields, depth first and in order. -/
def visitDepthFirst (c : Context) (a : Action) : Context × Except Failure Nat :=
  visitAll c.depth c 0 [a]

/-- Visits actions one after the other, each with everything it yields. -/
def visitEach (visited : Nat) (c : Context) : List Action → Context × Except Failure Nat
  | [] => (c, .ok visited)
  | a :: rest =>
    match c.visitDepthFirst a with
    | (c', .error f) => (c', .error f)
    | (c', .ok n) => visitEach (visited + n) c' rest

/-- Lets a handler handle an event: its actions run while the event is current. -/
def handle (c : Context) (e : Event) (h : Handler) : Context × Except Failure Nat :=
  c.whileHandling e fun c => visitEach 0 c h.actions

end Context
end LaunchPlan
