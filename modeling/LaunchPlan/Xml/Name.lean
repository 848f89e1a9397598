import LaunchPlan.Text.CharSet

/-! # Characters and names of XML

Which characters a document may hold, which start a name and which go on with it, and how
a name is read: at most one colon sets a qualifier off from the local name.
-/
namespace LaunchPlan
namespace Xml

/-- The white space of the markup. -/
def isSpace (c : Char) : Bool := c == ' ' || c == '\t' || c == '\n' || c == '\r'

/-- Whether a document may hold a character. -/
def isDocumentChar (c : Char) : Bool :=
  if c.toNat < 32 then isSpace c else c.toNat != 0xFFFE && c.toNat != 0xFFFF

/-- The characters from 128 on that can start a name. -/
def wideNameStarts : Text.CharSet :=
  ⟨[(0xC0, 0xD6), (0xD8, 0xF6), (0xF8, 0x2FF), (0x370, 0x37D), (0x37F, 0x1FFF), (0x200C, 0x200D),
    (0x2070, 0x218F), (0x2C00, 0x2FEF), (0x3001, 0xD7FF), (0xF900, 0xFDCF), (0xFDF0, 0xFFFD),
    (0x10000, 0xEFFFF)]⟩

/-- The characters from 128 on that can only go on with a name. -/
def wideNameParts : Text.CharSet := ⟨[(0xB7, 0xB7), (0x300, 0x36F), (0x203F, 0x2040)]⟩

/-- Whether a character can start a name. -/
def isNameStart (c : Char) : Bool :=
  c.isAlpha || c == ':' || c == '_' || wideNameStarts.contains c

/-- Whether a character can be in a name. -/
def isNameChar (c : Char) : Bool :=
  isNameStart c || c.isDigit || c == '-' || c == '.' || wideNameParts.contains c

/-- A name with its qualifier, which is empty if the name has none. -/
structure Name where
  /-- What stands before the colon. -/
  qualifier : List Char
  /-- What stands after the colon, or the whole name. -/
  localPart : List Char
  deriving DecidableEq

/-- Reads a name without a look at colons. -/
def plainName? (cs : List Char) : Option (List Char × List Char) :=
  match cs with
  | c :: _ =>
    if isNameStart c then some (cs.takeWhile isNameChar, cs.dropWhile isNameChar) else none
  | [] => none

/-- Splits a name at its colon; a second colon is an error, and so is a part that does not
start as a name. -/
def splitName? (cs : List Char) : Option Name :=
  let before := cs.takeWhile (· ≠ ':')
  let startsWell (part : List Char) : Bool := part.head?.all isNameStart
  match cs.dropWhile (· ≠ ':') with
  | [] => if before ≠ [] ∧ startsWell before then some ⟨[], before⟩ else none
  | _ :: after =>
    if startsWell before ∧ after ≠ [] ∧ startsWell after ∧ ':' ∉ after then some ⟨before, after⟩
    else none

/-- Reads a name; the second part of the answer is what follows it. -/
def name? (cs : List Char) : Option (Name × List Char) := do
  let name ← splitName? (cs.takeWhile isNameChar)
  some (name, cs.dropWhile isNameChar)

theorem length_plainName? {cs : List Char} {r : List Char × List Char}
    (h : plainName? cs = some r) : r.2.length ≤ cs.length := by
  have := (List.dropWhile_suffix (l := cs) isNameChar).length_le
  cases cs <;> grind [plainName?]

theorem length_name? {cs : List Char} {r : Name × List Char} (h : name? cs = some r) :
    r.2.length ≤ cs.length := by
  have := (List.dropWhile_suffix (l := cs) isNameChar).length_le
  grind [name?, Option.bind_eq_some_iff]

end Xml
end LaunchPlan
