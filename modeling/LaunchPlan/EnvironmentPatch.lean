import LaunchPlan.OrderedMap

/-! # Patches of an environment

The difference between two environments is a patch: the variables to remove and those to set.
`apply` makes the change that a patch describes.
-/
namespace LaunchPlan

/-- Changes to an environment. -/
structure EnvironmentPatch where
  /-- The variables that are added or changed, with their values. -/
  set : OrderedMap String
  /-- The variables that are removed. -/
  unset : List String

namespace EnvironmentPatch

/-- The patch that changes nothing. -/
def empty : EnvironmentPatch := ⟨.empty, []⟩

/-- The patch from one environment to another: the new and changed variables in the order of
the second, the removed ones in the order of the first. -/
def between (before after : OrderedMap String) : EnvironmentPatch where
  set := .ofList (after.entries.filter fun e => before.get? e.1 != some e.2)
  unset := before.keys.filter fun name => !after.contains name

/-- The environment after the changes of a patch. -/
def apply (p : EnvironmentPatch) (m : OrderedMap String) : OrderedMap String :=
  p.set.entries.foldl (fun m e => m.insert e.1 e.2) (p.unset.foldl OrderedMap.erase m)

end EnvironmentPatch
end LaunchPlan
