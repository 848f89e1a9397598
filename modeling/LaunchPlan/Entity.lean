import LaunchPlan.Template.Parser
import LaunchPlan.Text.Blank

/-! # Entities

An entity is one node of a description, whatever markup it is written in: a tag, child
entities, and attributes.  An attribute is a text or a list of entities.  Looking at the
children or at an attribute may fail, because the node is not what it should be.

The typed getters say what they expect; `ParseError` has one case for each way in which
a description can be wrong.
-/
namespace LaunchPlan

/-- What a node of a document is. -/
inductive NodeKind where
  /-- The null value. -/
  | null
  /-- A truth value. -/
  | boolean
  /-- A number. -/
  | number
  /-- A text. -/
  | string
  /-- A list. -/
  | list
  /-- A mapping. -/
  | mapping
  /-- A value with a tag. -/
  | tagged
  deriving DecidableEq

/-- The kind of a node in words. -/
def NodeKind.describe : NodeKind → String
  | null => "null"
  | boolean => "a boolean"
  | number => "a number"
  | string => "a string"
  | list => "a list"
  | mapping => "a mapping"
  | tagged => "a tagged value"

/-- How a node fails to be an entity. -/
inductive Malformation where
  /-- An entity should be a mapping. -/
  | notMapping (found : NodeKind)
  /-- The tag should be a string. -/
  | tagNotString (found : NodeKind)
  /-- An entity should have one tag. -/
  | tagCount (count : Nat)
  /-- The attributes should be a mapping. -/
  | attributesNotMapping (entity : String) (found : NodeKind)
  deriving DecidableEq

/-- A malformation in words. -/
def Malformation.describe : Malformation → String
  | notMapping found => "expected a mapping with a single tag, found " ++ found.describe
  | tagNotString found => "entity tag must be a string, found " ++ found.describe
  | tagCount count => "expected exactly one tag per entity, found " ++ toString count
  | attributesNotMapping entity found =>
    "attributes of '" ++ entity ++ "' should be a mapping, found " ++ found.describe

/-- What an attribute should have been. -/
inductive Expected where
  /-- A text. -/
  | text
  /-- A list of entities. -/
  | entities
  /-- A list of mappings. -/
  | mappings
  /-- A text or a list of mappings. -/
  | textOrMappings
  deriving DecidableEq

/-- What was expected, in words. -/
def Expected.describe : Expected → String
  | text => "text"
  | entities => "a list of entities"
  | mappings => "a list of mappings"
  | textOrMappings => "text or a list of mappings"

/-- Why the text of an attribute is not allowed. -/
inductive InvalidReason where
  /-- An action has both conditions. -/
  | bothConditions
  /-- The text should be a truth value. -/
  | notBoolean (text : String)
  deriving DecidableEq

/-- The reason in words. -/
def InvalidReason.describe : InvalidReason → String
  | bothConditions => "'if' and 'unless' are mutually exclusive"
  | notBoolean text => "expected 'true' or 'false', got '" ++ text ++ "'"

/-- Why a document is not a launch description. -/
inductive ParseError where
  /-- A required attribute is missing. -/
  | missingAttribute (entity name : String)
  /-- An attribute is of the wrong type. -/
  | attributeType (entity name : String) (expected : Expected)
  /-- An attribute has a text that is not allowed. -/
  | invalidValue (entity name : String) (reason : InvalidReason)
  /-- A text is not a template. -/
  | template (input : String) (cause : TemplateError)
  /-- No action has this tag. -/
  | unknownTag (tag : String)
  /-- The root is not a launch description. -/
  | unexpectedRoot (name : String)
  /-- A node is not an entity. -/
  | malformed (fault : Malformation)
  deriving DecidableEq

/-- The wording of a parse error. -/
def ParseError.message : ParseError → String
  | missingAttribute entity name =>
    "Entity '" ++ entity ++ "': missing required attribute '" ++ name ++ "'"
  | attributeType entity name expected =>
    "Entity '" ++ entity ++ "': attribute '" ++ name ++ "' should be " ++ expected.describe
  | invalidValue entity name reason =>
    "Entity '" ++ entity ++ "': invalid value for '" ++ name ++ "': " ++ reason.describe
  | template input cause =>
    "Failed to parse substitution '" ++ input ++ "': " ++ cause.message
  | unknownTag tag => "Unknown action tag: " ++ tag
  | unexpectedRoot name => "Expected a 'launch' root entity, found '" ++ name ++ "'"
  | malformed fault => "Malformed entity: " ++ fault.describe

/-- An attribute of an entity: a text, or entities. -/
inductive Attribute (ε : Type) where
  /-- A text. -/
  | text (content : String)
  /-- Entities. -/
  | entities (items : List ε)

/-- A node of a description. -/
structure Entity where
  /-- What the entity is. -/
  tag : String
  /-- The entities inside it, in the order of the document. -/
  children : Except ParseError (List Entity)
  /-- The attribute of a name, if the entity has it. -/
  attr? : String → Except ParseError (Option (Attribute Entity))

namespace Entity

/-- An attribute that has to be there. -/
def attr (e : Entity) (name : String) : Except ParseError (Attribute Entity) := do
  match ← e.attr? name with
  | some a => .ok a
  | none => .error (.missingAttribute e.tag name)

/-- The text of an attribute. -/
def asText (e : Entity) (name : String) : Attribute Entity → Except ParseError String
  | .text content => .ok content
  | .entities _ => .error (.attributeType e.tag name .text)

/-- The entities of an attribute. -/
def asEntities (e : Entity) (name : String) : Attribute Entity → Except ParseError (List Entity)
  | .entities items => .ok items
  | .text _ => .error (.attributeType e.tag name .entities)

/-- The text of an attribute that has to be there. -/
def text (e : Entity) (name : String) : Except ParseError String := do
  e.asText name (← e.attr name)

/-- The text of an attribute, if it is there. -/
def text? (e : Entity) (name : String) : Except ParseError (Option String) := do
  match ← e.attr? name with
  | some a => some <$> e.asText name a
  | none => .ok none

/-- The entities of an attribute that has to be there. -/
def entities (e : Entity) (name : String) : Except ParseError (List Entity) := do
  e.asEntities name (← e.attr name)

/-- The entities of an attribute, if it is there. -/
def entities? (e : Entity) (name : String) : Except ParseError (Option (List Entity)) := do
  match ← e.attr? name with
  | some a => some <$> e.asEntities name a
  | none => .ok none

/-- The truth value that a text stands for: `true` or `false`, in any case of letters and
with blanks around it. -/
def truthOf? (content : String) : Option Bool :=
  let word := (Text.trim content.toList).map Char.toLower
  if word = "true".toList then some true
  else if word = "false".toList then some false
  else none

/-- The truth value of an attribute, if it is there. -/
def boolean? (e : Entity) (name : String) : Except ParseError (Option Bool) := do
  match ← e.text? name with
  | none => .ok none
  | some content =>
    match truthOf? content with
    | some b => .ok (some b)
    | none => .error (.invalidValue e.tag name (.notBoolean content))

/-- Reads a text as a template. -/
def readTemplate (input : String) : Except ParseError Template :=
  (Template.parse input).mapError (.template input)

/-- The template of an attribute that has to be there. -/
def template (e : Entity) (name : String) : Except ParseError Template := do
  readTemplate (← e.text name)

/-- The template of an attribute, if it is there. -/
def template? (e : Entity) (name : String) : Except ParseError (Option Template) := do
  match ← e.text? name with
  | some input => some <$> readTemplate input
  | none => .ok none

end Entity
end LaunchPlan
