import LaunchPlan.Xml.Token

/-! # The element tree of an XML document

`readDocument?` reads a document and gives its root element.  The tags have to match, the
attributes of an element have to differ, and every qualifier has to be bound to a namespace
by the element or one around it.  Names in the tree are local names; an attribute keeps the
namespace of its qualifier.
-/
namespace LaunchPlan
namespace Xml

/-- An attribute of an element. -/
structure Attribute where
  /-- The namespace that the qualifier is bound to, if the name has a qualifier. -/
  space : Option String
  /-- The local name. -/
  name : String
  /-- The value. -/
  value : String

/-- A node of the tree. -/
inductive Node where
  /-- An element with its local name, attributes and content. -/
  | element (name : String) (attributes : List Attribute) (content : List Node)
  /-- Text. -/
  | text (content : String)
  /-- A comment. -/
  | comment (content : String)
  /-- A processing instruction. -/
  | instruction (target content : String)

/-- A namespace that the standard itself defines, by the parts of its path. -/
def standardSpace (path : List String) : String :=
  "/".intercalate ("http:" :: "" :: "www.w3.org" :: path)

/-- The namespace that the qualifier `xml` always stands for. -/
def xmlSpace : String := standardSpace ["XML", "1998", "namespace"]

/-- The namespace of namespace declarations. -/
def declarationSpace : String := standardSpace ["2000", "xmlns", ""]

/-- The namespaces in scope by qualifier; the empty qualifier has the default namespace. -/
abbrev Scope := List (List Char × String)

/-- The namespaces that the attributes of a tag declare, and the attributes that declare
none. -/
structure Declarations where
  /-- The declared namespaces. -/
  spaces : Scope
  /-- The other attributes. -/
  others : List (Name × String)

/-- Takes an attribute of a tag as a declaration or as an ordinary attribute.  The qualifier
`xml` and its namespace belong together, the namespace of declarations is never bound, and
no qualifier is declared twice. -/
def Declarations.add? (d : Declarations) (name : Name) (value : String) : Option Declarations :=
  if name.qualifier = "xmlns".toList then
    if value = declarationSpace then none
    else if name.localPart = "xml".toList then if value = xmlSpace then some d else none
    else if value = xmlSpace ∨ (d.spaces.lookup name.localPart).isSome then none
    else some { d with spaces := d.spaces ++ [(name.localPart, value)] }
  else if name.localPart = "xmlns".toList then
    if value = xmlSpace ∨ value = declarationSpace then none
    else some { d with spaces := d.spaces ++ [([], value)] }
  else some { d with others := d.others ++ [(name, value)] }

/-- Sorts the attributes of a tag. -/
def declarations? (attributes : List (Name × List Char)) : Option Declarations :=
  attributes.foldlM (fun d a => d.add? a.1 (String.ofList a.2)) ⟨[], []⟩

/-- The namespace of a qualified attribute name; an unknown qualifier is an error. -/
def Scope.spaceOf? (scope : Scope) (qualifier : List Char) : Option (Option String) :=
  if qualifier = "xml".toList then some (some xmlSpace)
  else if qualifier = [] then some none
  else (scope.lookup qualifier).map some

/-- Adds attributes to those of an element; two of one name and namespace are an error. -/
def Scope.attributes? (scope : Scope) (sofar : List Attribute) :
    List (Name × String) → Option (List Attribute)
  | [] => some sofar
  | (name, value) :: rest => do
    let a : Attribute := ⟨← scope.spaceOf? name.qualifier, String.ofList name.localPart, value⟩
    if sofar.any fun b => b.space == a.space && b.name == a.name then none
    else scope.attributes? (sofar ++ [a]) rest

/-- A start tag whose names are resolved. -/
structure Start where
  /-- The name as it is written, which the end tag repeats. -/
  written : Name
  /-- The namespaces in scope. -/
  scope : Scope
  /-- The attributes. -/
  attributes : List Attribute

/-- Resolves the names of a start tag inside a scope. -/
def Scope.start? (outer : Scope) (name : Name) (attributes : List (Name × List Char)) :
    Option Start := do
  let declared ← declarations? attributes
  let scope : Scope := declared.spaces ++ outer
  let attributes ← scope.attributes? [] declared.others
  if name.qualifier = [] ∨
      (name.qualifier ≠ "xmlns".toList ∧ (scope.lookup name.qualifier).isSome) then
    some ⟨name, scope, attributes⟩
  else none

/-- An element whose end tag has not been read. -/
structure OpenElement where
  /-- Its start tag. -/
  start : Start
  /-- The content read so far, the last node first. -/
  content : List Node

/-- The element, once its end tag is read. -/
def OpenElement.close (e : OpenElement) : Node :=
  .element (String.ofList e.start.written.localPart) e.start.attributes e.content.reverse

/-- The state of building the tree. -/
structure Builder where
  /-- The open elements, the innermost first. -/
  stack : List OpenElement
  /-- The root element, once it is complete. -/
  root : Option Node

namespace Builder

/-- Adds a complete element: to the innermost open element, or as the root. -/
def addElement? (b : Builder) (n : Node) : Option Builder :=
  match b.stack, b.root with
  | e :: rest, _ => some { b with stack := { e with content := n :: e.content } :: rest }
  | [], none => some { b with root := some n }
  | [], some _ => none

/-- Adds a comment or an instruction, which may also stand outside the root. -/
def addMisc (b : Builder) (n : Node) : Builder :=
  match b.stack with
  | e :: rest => { b with stack := { e with content := n :: e.content } :: rest }
  | [] => b

/-- Adds text; outside the root only white space may stand. -/
def addText? (b : Builder) (content : List Char) (isBlank : Bool) : Option Builder :=
  if b.stack.isEmpty ∧ ¬ isBlank then none else some (b.addMisc (.text (String.ofList content)))

/-- Takes the next token into the tree. -/
def step? (b : Builder) : Token → Option Builder
  | .openTag name attributes isEmpty => do
    if b.stack.isEmpty ∧ b.root.isSome then none
    else
      let outer : Scope := (b.stack.head?.map (·.start.scope)).getD []
      let e : OpenElement := ⟨← outer.start? name attributes, []⟩
      if isEmpty then b.addElement? e.close else some { b with stack := e :: b.stack }
  | .closeTag name =>
    match b.stack with
    | e :: rest =>
      if e.start.written = name then { b with stack := rest }.addElement? e.close else none
    | [] => none
  | .text content isBlank => b.addText? content isBlank
  | .literal content => b.addText? content false
  | .comment content => some (b.addMisc (.comment (String.ofList content)))
  | .instruction target content =>
    some (b.addMisc (.instruction (String.ofList target) (String.ofList content)))

end Builder

/-- Reads a document: a byte order mark and a declaration may precede the tokens, which make
up exactly one root element.  The answer is none for a text that is no document. -/
def readDocument? (source : String) : Option Node := do
  let cs := match source.toList with
    | '\uFEFF' :: rest => rest
    | cs => cs
  let tokens ← tokens? (← afterDeclaration? cs)
  let b ← tokens.foldlM Builder.step? ⟨[], none⟩
  if b.stack.isEmpty then b.root else none

end Xml
end LaunchPlan
