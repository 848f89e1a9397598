import LaunchPlan.Entity
import LaunchPlan.Yaml.Number

/-! # YAML values

What a document says, apart from how it is written.  `isSame` is the equality of keys: the
order of a mapping's entries does not count.
-/
namespace LaunchPlan
namespace Yaml

/-- A value. -/
inductive Value where
  /-- The null value. -/
  | null
  /-- A truth value. -/
  | boolean (value : Bool)
  /-- A number. -/
  | number (value : Number)
  /-- A text. -/
  | string (text : String)
  /-- A list. -/
  | sequence (items : List Value)
  /-- A mapping; its entries are in the order of the document. -/
  | mapping (entries : List (Value × Value))
  /-- A value with a tag of the document's own. -/
  | tagged (tag : List Char) (value : Value)

namespace Value

/-- The kind of a value. -/
def kind : Value → NodeKind
  | null => .null
  | boolean _ => .boolean
  | number _ => .number
  | string _ => .string
  | sequence _ => .list
  | mapping _ => .mapping
  | tagged .. => .tagged

/-- The value behind all tags. -/
def untagged : Value → Value
  | tagged _ value => value.untagged
  | value => value

/-- The text of a value, whether or not it has a tag. -/
def text? (v : Value) : Option String :=
  match v.untagged with
  | string text => some text
  | _ => none

/-- Whether a value is a mapping, with or without a tag. -/
def isMapping (v : Value) : Bool :=
  match v.untagged with
  | mapping _ => true
  | _ => false

mutual

/-- Whether two values count as one. -/
def isSame : Value → Value → Bool
  | null, null => true
  | boolean a, boolean b => a == b
  | number a, number b => a.isSame b
  | string a, string b => a == b
  | sequence as, sequence bs => areSame as bs
  | mapping es, mapping fs => es.length == fs.length && areIn es fs
  | tagged s a, tagged t b => s == t && isSame a b
  | _, _ => false

/-- Whether the values of two lists count as one each. -/
def areSame : List Value → List Value → Bool
  | [], [] => true
  | a :: as, b :: bs => isSame a b && areSame as bs
  | _, _ => false

/-- Whether all entries of a mapping are entries of another. -/
def areIn : List (Value × Value) → List (Value × Value) → Bool
  | [], _ => true
  | (k, v) :: es, fs => fs.any (fun f => isSame k f.1 && isSame v f.2) && areIn es fs

end

/-- Whether no key of a mapping occurs twice. -/
def hasUniqueKeys : List (Value × Value) → Bool
  | [] => true
  | (k, _) :: es => !es.any (fun e => isSame k e.1) && hasUniqueKeys es

end Value
end Yaml
end LaunchPlan
