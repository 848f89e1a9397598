import LaunchPlan.Report.Tree
import LaunchPlan.Text.Numeral

/-! # Trees in JSON

Every entry and item stands on a line of its own, indented by two spaces for each level.  A
text is in quotes; only quotes, backslashes and control characters are escaped.
-/
namespace LaunchPlan
namespace Report

/-- The written form of a character inside quotes. -/
def jsonChar (c : Char) : List Char :=
  if c = '"' then ['\\', '"']
  else if c = '\\' then ['\\', '\\']
  else if c = '\n' then ['\\', 'n']
  else if c = '\r' then ['\\', 'r']
  else if c = '\t' then ['\\', 't']
  else if c.toNat = 8 then ['\\', 'b']
  else if c.toNat = 12 then ['\\', 'f']
  else if c.toNat < 32 then '\\' :: 'u' :: Numeral.hexadecimal 4 c.toNat
  else [c]

/-- A text in quotes. -/
def jsonText (s : String) : String :=
  "\"" ++ String.ofList (s.toList.flatMap jsonChar) ++ "\""

/-- The start of a line at a level. -/
def indentation (level : Nat) : String := "".pushn ' ' (2 * level)

/-- Lines between brackets; brackets without lines stand together. -/
def bracketed (left right : String) (level : Nat) : List String → String
  | [] => left ++ right
  | lines =>
    left ++ "\n" ++ ",\n".intercalate (lines.map (indentation (level + 1) ++ ·)) ++ "\n" ++
      indentation level ++ right

mutual

/-- A tree at a level in JSON. -/
def Tree.json (level : Nat) : Tree → String
  | .null => "null"
  | .number value => toString value
  | .text content => jsonText content
  | .texts items => bracketed "[" "]" level (items.map jsonText)
  | .mapping entries => bracketed "\x7b" "\x7d" level (jsonEntries (level + 1) entries)

/-- The entries of a mapping in JSON. -/
def jsonEntries (level : Nat) : List (String × Tree) → List String
  | [] => []
  | (name, t) :: rest => (jsonText name ++ ": " ++ t.json level) :: jsonEntries level rest

end

end Report
end LaunchPlan
