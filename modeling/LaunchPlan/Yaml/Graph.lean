import LaunchPlan.Yaml.Node

/-! # The nodes that names refer to

An anchor names the node that it stands before.  The number of an anchor is the number of
different names before it; a reference has the number that its name has at that place, and
stands for the last node with this number in the whole document.
-/
namespace LaunchPlan
namespace Yaml

/-- A node that refers to others by numbers. -/
abbrev NumberedNode := Node Nat

/-- What is known of the anchors while a document is read. -/
structure Anchors where
  /-- The number of each name. -/
  numbers : List (List Char × Nat)
  /-- For each number, which of the nodes with an anchor has it, the last one first. -/
  owners : List (Nat × Nat)
  /-- The nodes with an anchor that were read, by their place among all of them. -/
  nodes : List (Nat × NumberedNode)

namespace Anchors

/-- No anchors. -/
def empty : Anchors := ⟨[], [], []⟩

/-- Starts a node that may have an anchor; the answer is its place among those that do. -/
def enter (a : Anchors) : Option (List Char) → Option Nat × Anchors
  | none => (none, a)
  | some name =>
    let number := a.numbers.length
    let place := a.owners.length
    (some place,
      { a with
        numbers := (name, number) :: a.numbers.filter (fun e => e.1 != name)
        owners := (number, place) :: a.owners })

/-- Ends a node that was started. -/
def leave (a : Anchors) (place : Option Nat) (node : NumberedNode) : Anchors :=
  match place with
  | some place => { a with nodes := (place, node) :: a.nodes }
  | none => a

/-- The node that a number stands for. -/
def target? (a : Anchors) (number : Nat) : Option NumberedNode := do
  a.nodes.lookup (← a.owners.lookup number)

end Anchors

namespace Node

mutual

/-- Replaces names by numbers in a node; an unknown name is an error. -/
def link? (a : Anchors) : NamedNode → Option (NumberedNode × Anchors)
  | .alias name => (a.numbers.lookup name).map fun n => (.alias n, a)
  | .scalar p text isPlain =>
    let (place, a) := a.enter p.anchor
    let node := .scalar p text isPlain
    some (node, a.leave place node)
  | .sequence p items => do
    let (place, a) := a.enter p.anchor
    let (items, a) ← linkItems? a items
    let node := .sequence p items
    some (node, a.leave place node)
  | .mapping p entries => do
    let (place, a) := a.enter p.anchor
    let (entries, a) ← linkEntries? a entries
    let node := .mapping p entries
    some (node, a.leave place node)

/-- Replaces names by numbers in the items of a list. -/
def linkItems? (a : Anchors) : List NamedNode → Option (List NumberedNode × Anchors)
  | [] => some ([], a)
  | item :: rest => do
    let (item, a) ← link? a item
    let (rest, a) ← linkItems? a rest
    some (item :: rest, a)

/-- Replaces names by numbers in the entries of a mapping. -/
def linkEntries? (a : Anchors) :
    List (NamedNode × NamedNode) → Option (List (NumberedNode × NumberedNode) × Anchors)
  | [] => some ([], a)
  | (key, value) :: rest => do
    let (key, a) ← link? a key
    let (value, a) ← link? a value
    let (rest, a) ← linkEntries? a rest
    some ((key, value) :: rest, a)

end

mutual

/-- The number of marks that a node takes up: one for a scalar or a reference, two for the
ends of a collection. -/
def extent {ref : Type} : Node ref → Nat
  | .alias _ => 1
  | .scalar .. => 1
  | .sequence _ items => 2 + extentOfItems items
  | .mapping _ entries => 2 + extentOfEntries entries

/-- The extent of the items of a list. -/
def extentOfItems {ref : Type} : List (Node ref) → Nat
  | [] => 0
  | item :: rest => extent item + extentOfItems rest

/-- The extent of the entries of a mapping. -/
def extentOfEntries {ref : Type} : List (Node ref × Node ref) → Nat
  | [] => 0
  | (key, value) :: rest => extent key + extent value + extentOfEntries rest

end

end Node

/-- A document and what its references stand for. -/
structure Graph where
  /-- The root. -/
  root : NumberedNode
  /-- The anchors. -/
  anchors : Anchors
  /-- How many references may be followed. -/
  maxJumps : Nat

/-- The graph of a document: a hundred references may be followed for each mark in it. -/
def Graph.ofNode? (root : NamedNode) : Option Graph := do
  let (node, anchors) ← Node.link? .empty root
  some ⟨node, anchors, 100 * root.extent⟩

end Yaml
end LaunchPlan
