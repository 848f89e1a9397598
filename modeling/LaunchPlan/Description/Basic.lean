import LaunchPlan.Action.Basic

/-! # Launch descriptions

A description is the list of actions that a launch starts with.
-/
namespace LaunchPlan

/-- The actions that a launch starts with, in order. -/
structure Description where
  /-- The actions. -/
  actions : List Action

namespace Description

/-- The number of actions, groups counted once. -/
def size (d : Description) : Nat := d.actions.length

/-- The numbered lines for a list of actions. -/
def renderFrom (number : Nat) : List Action → String
  | [] => ""
  | a :: rest => "  " ++ toString number ++ ". " ++ a.describe ++ "\n" ++
      renderFrom (number + 1) rest

/-- A description as text: a heading, and a numbered line for each action. -/
def render (d : Description) : String :=
  "Launch Description\n==================\n" ++ renderFrom 1 d.actions

end Description
end LaunchPlan
