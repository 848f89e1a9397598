import LaunchPlan.Yaml.Cursor

/-! # Tokens of YAML

The tokens that a YAML text is made of.  Besides those that stand in the text there are
tokens for the start and the end of block collections, which only indentation shows, and a
token before every mapping key.
-/
namespace LaunchPlan
namespace Yaml

/-- A piece of a YAML text. -/
inductive Token where
  /-- The end of the text. -/
  | streamEnd
  /-- The directive that states the version. -/
  | version (major minor : Nat)
  /-- The directive that lets a handle stand for the start of tags. -/
  | tagHandle (handle start : List Char)
  /-- The mark that starts a document. -/
  | documentStart
  /-- The mark that ends a document. -/
  | documentEnd
  /-- The start of an indented list. -/
  | blockSequenceStart
  /-- The start of an indented mapping. -/
  | blockMappingStart
  /-- The end of an indented collection. -/
  | blockEnd
  /-- The opening bracket of a list. -/
  | flowSequenceStart
  /-- The closing bracket of a list. -/
  | flowSequenceEnd
  /-- The opening brace of a mapping. -/
  | flowMappingStart
  /-- The closing brace of a mapping. -/
  | flowMappingEnd
  /-- The hyphen before an item. -/
  | blockEntry
  /-- The comma between items. -/
  | flowEntry
  /-- What precedes a key. -/
  | key
  /-- What precedes a value. -/
  | value
  /-- A reference to an anchor. -/
  | alias (name : List Char)
  /-- A name for a node. -/
  | anchor (name : List Char)
  /-- A tag, as its handle and the rest. -/
  | tag (handle suffix : List Char)
  /-- A text; `isPlain` says that it is written without quotes and block marks. -/
  | scalar (text : List Char) (isPlain : Bool)
  deriving DecidableEq

end Yaml
end LaunchPlan
