import LaunchPlan.Text.Numeral
import LaunchPlan.Xml.Name

/-! # References and the value of literal text

In text and in attribute values, `&` starts a reference to a character, which `;` ends.
`decodeFrom` replaces the references and treats line ends and, in attribute values, tabs as
the markup prescribes; characters that a reference gives stay as they are.
-/
namespace LaunchPlan
namespace Xml

/-- The character of a code point; one that is no character gives the replacement
character, and a number beyond 32 bits gives none. -/
def charOfNumber? (n : Nat) : Option Char :=
  if Nat.pow 2 32 ≤ n then none
  else
    let c := if n.isValidChar then Char.ofNat n else Char.ofNat 0xFFFD
    if isDocumentChar c then some c else none

/-- The character that a reference gives; the reference comes without `&` and `;`. -/
def referenced? : List Char → Option Char
  | ['q', 'u', 'o', 't'] => some '"'
  | ['a', 'm', 'p'] => some '&'
  | ['a', 'p', 'o', 's'] => some '\''
  | ['l', 't'] => some '<'
  | ['g', 't'] => some '>'
  | '#' :: 'x' :: digits => (Numeral.read? 16 digits).bind charOfNumber?
  | '#' :: digits => (Numeral.read? 10 digits).bind charOfNumber?
  | _ => none

/-- Replaces references.  `reference` holds the reference being read, its last character
first; a carriage return before a line feed is dropped, and `literal` maps every other
character that is not part of a reference. -/
def decodeFrom (literal : Char → Char) (reference : Option (List Char)) :
    List Char → Option (List Char)
  | [] => if reference.isNone then some [] else none
  | c :: rest =>
    match reference with
    | some r =>
      if c = ';' then do
        let d ← referenced? r.reverse
        let ds ← decodeFrom literal none rest
        some (d :: ds)
      else decodeFrom literal (some (c :: r)) rest
    | none =>
      if c = '&' then decodeFrom literal (some []) rest
      else if c = '\r' ∧ rest.head? = some '\n' then decodeFrom literal none rest
      else (literal c :: ·) <$> decodeFrom literal none rest

/-- The value of an attribute: line ends and tabs become spaces. -/
def attributeValue? (cs : List Char) : Option (List Char) :=
  decodeFrom (fun c => if c = '\t' ∨ c = '\n' ∨ c = '\r' then ' ' else c) none cs

/-- The value of text between tags: line ends become line feeds. -/
def textValue? (cs : List Char) : Option (List Char) :=
  decodeFrom (fun c => if c = '\r' then '\n' else c) none cs

end Xml
end LaunchPlan
