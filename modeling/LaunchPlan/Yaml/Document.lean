import LaunchPlan.Yaml.Graph
import LaunchPlan.Yaml.Scalar
import LaunchPlan.Yaml.Token.Scanner

/-! # From text to value

`readDocument?` gives the value of a YAML text.  References are replaced by what they stand
for; no value is nested more than 128 deep.  A tag that starts with an exclamation mark stays
as a tag of the value; below it the tags of the value itself and, if it is a mapping, of its
keys do not count.
-/
namespace LaunchPlan
namespace Yaml

/-- Reading a value: the state counts the references followed so far. -/
abbrev Reading := StateT Nat Option

/-- How deep values may be nested. -/
def maxDepth : Nat := 128

/-- The tag before a node. -/
def Node.tag? {ref : Type} : Node ref → Option (List Char)
  | .alias _ => none
  | .scalar p .. => p.tag
  | .sequence p _ => p.tag
  | .mapping p _ => p.tag

/-- A tag of the document's own, without the exclamation mark before it unless the mark is
all of it. -/
def localTag? : List Char → Option (List Char)
  | ['!'] => some ['!']
  | '!' :: '!' :: c :: rest => some (c :: rest)
  | '!' :: rest => some rest
  | _ => none

namespace Graph

/-- Follows a reference; the flag says whether the tags of the node do not count. -/
def follow (g : Graph) (ignoresTags : Bool) : NumberedNode → Reading (NumberedNode × Bool)
  | .alias number => do
    let jumps ← get
    if jumps < g.maxJumps then
      set (jumps + 1)
      return (← StateT.lift (g.anchors.target? number), false)
    else failure
  | node => return (node, ignoresTags)

/-- The value of a scalar. -/
def scalar? (ignoresTags : Bool) (tag : Option (List Char)) (text : List Char) (isPlain : Bool) :
    Option Value :=
  match tag with
  | none => textValue? isPlain text
  | some t => if ignoresTags then textValue? isPlain text else typedValue? t text

/-- The value of a node, with at most `depth` collections inside each other. -/
def value (g : Graph) (depth : Nat) (ignoresTags : Bool) (node : NumberedNode) :
    Reading Value := do
  let (node, ignoresTags) ← g.follow ignoresTags node
  let tag := if ignoresTags then none else node.tag?.bind localTag?
  let ignoresTags := ignoresTags || tag.isSome
  let v ←
    match node, depth with
    | .scalar p text isPlain, _ => StateT.lift (scalar? ignoresTags p.tag text isPlain)
    | .sequence _ items, depth + 1 => Value.sequence <$> items.mapM (g.value depth false)
    | .mapping _ entries, depth + 1 => do
      let entries ← entries.mapM fun (k, v) => do
        return (← g.value depth ignoresTags k, ← g.value depth false v)
      if Value.hasUniqueKeys entries then pure (Value.mapping entries) else failure
    | _, _ => failure
  return match tag with
    | some t => .tagged t v
    | none => v

end Graph

/-- The value of a text; a text without a document is the null value. -/
def readDocument? (source : String) : Option Value := do
  match ← document? (← tokens? source) with
  | none => some .null
  | some root =>
    let g ← Graph.ofNode? root
    let (v, _) ← (g.value maxDepth false g.root).run 0
    some v

end Yaml
end LaunchPlan
