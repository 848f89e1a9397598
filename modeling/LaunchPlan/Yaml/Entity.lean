import LaunchPlan.Entity
import LaunchPlan.Yaml.Document

/-! # Values as entities

An entity is written as a mapping with one key, the tag; the value of the key holds the
attributes, with the child entities under `children`.  The value may also be the list of the
child entities, or nothing.  In an attribute that is a list of mappings, each is an entity
named for the attribute.
-/
namespace LaunchPlan
namespace Yaml

/-- The key that holds the child entities. -/
def childrenKey : String := "children"

mutual

/-- The entity with this tag whose attributes are in a value. -/
def Value.entity (tag : String) : Value → Entity
  | .null => ⟨tag, .ok [], fun _ => .ok none⟩
  | .sequence items => ⟨tag, taggedItems items, fun _ => .ok none⟩
  | .mapping entries => ⟨tag, childItems tag entries, attribute? tag entries⟩
  | v => ⟨tag, .ok [], fun _ => .error (.malformed (.attributesNotMapping tag v.kind))⟩

/-- The entities of a list. -/
def taggedItems : List Value → Except ParseError (List Entity)
  | [] => .ok []
  | item :: rest => do return (← taggedEntity item) :: (← taggedItems rest)

/-- The entity that a value is. -/
def taggedEntity : Value → Except ParseError Entity
  | .mapping [(.string tag, v)] => .ok (v.entity tag)
  | .mapping [(key, _)] => .error (.malformed (.tagNotString key.kind))
  | .mapping entries => .error (.malformed (.tagCount entries.length))
  | v => .error (.malformed (.notMapping v.kind))

/-- The child entities among the entries of the entity `tag`. -/
def childItems (tag : String) : List (Value × Value) → Except ParseError (List Entity)
  | [] => .ok []
  | (.string key, v) :: rest =>
    if key = childrenKey then
      match v with
      | .sequence items => taggedItems items
      | .null => .ok []
      | _ => .error (.attributeType tag childrenKey .entities)
    else childItems tag rest
  | _ :: rest => childItems tag rest

/-- The attribute of a name among the entries of the entity `tag`: the first entry whose key
is the name, if the key has no tag. -/
def attribute? (tag : String) (entries : List (Value × Value)) (name : String) :
    Except ParseError (Option (Attribute Entity)) :=
  match entries with
  | [] => .ok none
  | (key, v) :: rest =>
    if key.text? = some name then
      match key with
      | .string _ => attributeOf tag name v
      | _ => .ok none
    else attribute? tag rest name

/-- A value as the attribute `name` of the entity `tag`. -/
def attributeOf (tag name : String) : Value → Except ParseError (Option (Attribute Entity))
  | .null => .ok none
  | .string text => .ok (some (.text text))
  | .boolean b => .ok (some (.text (if b then "true" else "false")))
  | .number n => .ok (some (.text n.text))
  | .sequence items => do return some (.entities (← listItems tag name items))
  | _ => .error (.attributeType tag name .textOrMappings)

/-- The entities of the list that is the attribute `name` of the entity `tag`. -/
def listItems (tag name : String) : List Value → Except ParseError (List Entity)
  | [] => .ok []
  | item :: rest =>
    if item.isMapping then do return item.entity name :: (← listItems tag name rest)
    else .error (.attributeType tag name .mappings)

end

end Yaml
end LaunchPlan
