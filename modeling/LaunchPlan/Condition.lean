import LaunchPlan.Template.Basic
import LaunchPlan.Text.Blank
import LaunchPlan.Text.LetterCase

/-! # Conditions

An action may carry a condition, a template that decides whether it runs.  Its value
holds when it reads `true`, `yes` or `1`.
-/
namespace LaunchPlan

/-- Whether a text counts as true: without the blanks around it, it is `true` or
`yes`, in any case of letters, or `1`. -/
def isTruthy (value : String) : Bool :=
  let v := String.ofList (Text.trim value.toList)
  Text.eqIgnoringAsciiCase v "true" || v == "1" || Text.eqIgnoringAsciiCase v "yes"

/-- Decides whether an action runs. -/
inductive Condition where
  /-- The action runs when the value holds. -/
  | onlyIf (expression : Template)
  /-- The action runs when the value does not hold. -/
  | unless (expression : Template)

/-- Resolves the expression and decides. -/
def Condition.holds (b : Bindings) : Condition → Except ResolutionError Bool
  | .onlyIf e => do .ok (isTruthy (← Template.resolve b e))
  | .unless e => do .ok (!isTruthy (← Template.resolve b e))

end LaunchPlan
