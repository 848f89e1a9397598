import LaunchPlan.Description.Parser
import LaunchPlan.Markup
import LaunchPlan.Xml.Entity
import LaunchPlan.Yaml.Entity

/-! # Descriptions from texts and files

A text in one of the markups is read in two steps: the markup gives the root entity, and the
root entity gives the description.  A file is read in the markup that its extension tells.
What happens on the way is recorded.
-/
namespace LaunchPlan

/-- Why a text is not a description. -/
inductive SourceError where
  /-- The text is not well formed in its markup. -/
  | illFormed (markup : Markup)
  /-- The document is not a launch description. -/
  | invalid (cause : ParseError)
  deriving DecidableEq

/-- The wording of a parse error, followed by that of its cause. -/
def ParseError.explain : ParseError → String
  | template input cause => (ParseError.template input cause).message ++ ": " ++ cause.message
  | err => err.message

namespace SourceError

/-- The wording of a source error.  Of a text that is not well formed it does not say
where. -/
def message : SourceError → String
  | illFormed .xml => "Failed to parse XML"
  | illFormed .yaml => "Failed to parse YAML"
  | invalid cause => "Invalid launch description: " ++ cause.message

/-- The wording of a source error, followed by that of each cause. -/
def explain : SourceError → String
  | invalid cause => (invalid cause).message ++ ": " ++ cause.explain
  | err => err.message

end SourceError

/-- The root entity of a text. -/
def Markup.readEntity (m : Markup) (source : String) : Except SourceError Entity :=
  match m with
  | .xml =>
    match Xml.readEntity? source with
    | some e => .ok e
    | none => .error (.illFormed .xml)
  | .yaml =>
    match Yaml.readDocument? source with
    | some v => (Yaml.taggedEntity v).mapError .invalid
    | none => .error (.illFormed .yaml)

/-- The description in a text, and the records of reading it. -/
def readDescription (r : Registry) (m : Markup) (source : String) :
    List Record × Except SourceError Description :=
  match m.readEntity source with
  | .error err => ([], .error err)
  | .ok e =>
    match e.toDescription r with
    | .error err => ([.rooted m e.tag], .error (.invalid err))
    | .ok d => ([.rooted m e.tag, .parsed d.size], .ok d)

/-- Why a file does not give a description. -/
inductive LoadError where
  /-- The extension tells no markup. -/
  | unknownMarkup (path : String)
  /-- The file cannot be read. -/
  | unreadable (path : String)
  /-- The text of the file is not a description. -/
  | source (err : SourceError)
  deriving DecidableEq

namespace LoadError

/-- The wording of a load error, followed by that of each cause.  Of a file that cannot be
read it does not say why. -/
def explain : LoadError → String
  | unknownMarkup path =>
    "Cannot tell the format of '" ++ path ++ "': expected a .xml, .yaml or .yml file"
  | unreadable path => "Failed to read launch file '" ++ path ++ "'"
  | source err => err.explain

end LoadError

/-- The description in a file, and the records of reading it; `read?` gives the text of a
file. -/
def loadDescription (r : Registry) (read? : String → Option String) (path : String) :
    List Record × Except LoadError Description :=
  match Markup.ofPath? path with
  | none => ([], .error (.unknownMarkup path))
  | some m =>
    match read? path with
    | none => ([], .error (.unreadable path))
    | some source =>
      match readDescription r m source with
      | (records, .error err) => (records, .error (.source err))
      | (records, .ok d) => (records ++ [.loaded d.size path], .ok d)

end LaunchPlan
