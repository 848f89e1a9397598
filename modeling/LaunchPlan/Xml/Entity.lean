import LaunchPlan.Entity
import LaunchPlan.Xml.Document

/-! # Elements as entities

An element is an entity: its local name is the tag, and its child elements are the child
entities.  An attribute of the entity is an XML attribute without a namespace; if there is
none of the name, it is the list of the child elements of that name.
-/
namespace LaunchPlan
namespace Xml

/-- The attribute of a name, of an element with these attributes and child entities. -/
def attributeOf (attributes : List Attribute) (children : List Entity) (name : String) :
    Option (LaunchPlan.Attribute Entity) :=
  match attributes.find? fun a => a.space.isNone && a.name == name with
  | some a => some (.text a.value)
  | none =>
    match children.filter fun e => e.tag == name with
    | [] => none
    | items => some (.entities items)

mutual

/-- The entity of an element; other nodes have none. -/
def Node.entity? : Node → Option Entity
  | .element name attributes content =>
    let children := Node.entities content
    some ⟨name, .ok children, fun n => .ok (attributeOf attributes children n)⟩
  | _ => none

/-- The entities of the elements among some nodes. -/
def Node.entities : List Node → List Entity
  | [] => []
  | n :: rest =>
    match n.entity? with
    | some e => e :: Node.entities rest
    | none => Node.entities rest

end

/-- The root entity of a document. -/
def readEntity? (source : String) : Option Entity := do
  let root ← readDocument? source
  root.entity?

end Xml
end LaunchPlan
