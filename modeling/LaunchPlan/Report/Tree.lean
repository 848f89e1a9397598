/-! # Trees of plain data

What a report is made of, apart from the notation in which it is written.
-/
namespace LaunchPlan
namespace Report

/-- Plain data. -/
inductive Tree where
  /-- Nothing. -/
  | null
  /-- A number. -/
  | number (value : Nat)
  /-- A text. -/
  | text (content : String)
  /-- A list of texts. -/
  | texts (items : List String)
  /-- Named data, in order. -/
  | mapping (entries : List (String × Tree))

namespace Tree

/-- A text that may be missing. -/
def ofOption : Option String → Tree
  | some content => .text content
  | none => .null

/-- A mapping of texts. -/
def ofEntries (entries : List (String × String)) : Tree :=
  .mapping (entries.map fun e => (e.1, .text e.2))

end Tree
end Report
end LaunchPlan
