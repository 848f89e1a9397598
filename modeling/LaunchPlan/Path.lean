import LaunchPlan.Text.LetterCase

/-! # Paths

The last name of a path and its extension.  Empty parts and parts that are a single full stop
do not count; a path that ends in two full stops has no last name.
-/
namespace LaunchPlan
namespace Path

/-- The parts of a path between slashes. -/
def parts (path : List Char) : List (List Char) :=
  path.foldr (fun c parts =>
    match parts with
    | [] => [[c]]
    | part :: rest => if c = '/' then [] :: part :: rest else (c :: part) :: rest) [[]]

/-- The last name of a path. -/
def fileName? (path : List Char) : Option (List Char) :=
  match (parts path).filter (fun part => part ≠ [] ∧ part ≠ ['.']) |>.getLast? with
  | some name => if name = ['.', '.'] then none else some name
  | none => none

/-- The extension of a name: what follows the last full stop, unless the name starts with
that one. -/
def extensionOf? (name : List Char) : Option (List Char) :=
  let reversed := name.reverse
  let afterStop := (reversed.takeWhile (· ≠ '.')).reverse
  if afterStop.length + 1 < name.length then some afterStop else none

/-- The extension of the last name of a path, with small letters for the capitals of ASCII. -/
def extension? (path : String) : Option String := do
  let name ← fileName? path.toList
  let afterStop ← extensionOf? name
  some (Text.lowerAscii (String.ofList afterStop))

end Path
end LaunchPlan
