import LaunchPlan.Path

/-! # Markups

A description is written in one of two markups.  The extension of a file tells which.
-/
namespace LaunchPlan

/-- The markups a description can be written in. -/
inductive Markup where
  /-- Elements with attributes. -/
  | xml
  /-- Mappings and lists. -/
  | yaml
  deriving DecidableEq

/-- The markup of the files with an extension. -/
def Markup.ofExtension? (extension : String) : Option Markup :=
  if extension = "xml" then some .xml
  else if extension = "yaml" ∨ extension = "yml" then some .yaml
  else none

/-- The markup of a file. -/
def Markup.ofPath? (path : String) : Option Markup :=
  (Path.extension? path).bind ofExtension?

end LaunchPlan
