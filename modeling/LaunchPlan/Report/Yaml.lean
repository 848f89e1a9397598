import LaunchPlan.Report.Tree
import LaunchPlan.Yaml.Style

/-! # Trees in YAML

Entries of a mapping are indented by two spaces more than the mapping itself, items of a list
by as much as the key before them.
-/
namespace LaunchPlan
namespace Report

/-- The start of a line. -/
def spaces (indent : Nat) : String := "".pushn ' ' indent

/-- A text at the end of a line; further lines of it are indented by two spaces more. -/
def yamlText (indent : Nat) (s : String) : String :=
  " " ++ String.ofList (Yaml.writeText (indent + 2) s.toList)

/-- A key and the colon behind it. -/
def yamlKey (indent : Nat) (name : String) : String :=
  if Yaml.isSimpleKey name.toList then
    -- the text of a simple key is on one line
    String.ofList (Yaml.writeText (indent + 2) name.toList).dropLast ++ ":"
  else "?" ++ yamlText indent name ++ spaces indent ++ ":"

/-- The items of a list. -/
def yamlItems (indent : Nat) : List String → String
  | [] => ""
  | item :: rest => spaces indent ++ "-" ++ yamlText indent item ++ yamlItems indent rest

mutual

/-- A tree behind a key that is indented like this. -/
def Tree.yamlValue (indent : Nat) : Tree → String
  | .null => " null\n"
  | .number value => " " ++ toString value ++ "\n"
  | .text content => yamlText indent content
  | .texts [] => " []\n"
  | .texts items => "\n" ++ yamlItems indent items
  | .mapping [] => " \x7b\x7d\n"
  | .mapping entries => "\n" ++ yamlEntries (indent + 2) entries

/-- The entries of a mapping. -/
def yamlEntries (indent : Nat) : List (String × Tree) → String
  | [] => ""
  | (name, t) :: rest =>
    spaces indent ++ yamlKey indent name ++ t.yamlValue indent ++ yamlEntries indent rest

end

end Report
end LaunchPlan
