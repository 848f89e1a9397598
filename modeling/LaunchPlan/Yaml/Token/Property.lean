import LaunchPlan.Yaml.Token.Basic
import LaunchPlan.Yaml.Token.Quoted

/-! # Anchors, aliases, tags and directives

The tokens that begin with `&`, `*`, `!` and `%`.  A tag is a handle and a suffix; a tag
without a handle of its own has the handle `!`, a verbatim tag and the tag that is a lone
exclamation mark have an empty handle.
-/
namespace LaunchPlan
namespace Yaml

/-- Whether a text is at its end or starts with a character that may follow an anchor. -/
def endsAnchor : List Char → Bool
  | [] => true
  | c :: _ =>
    isBlank c || isBreak c || "?:,]\x7d%@".toList.contains c || c.toNat == 96

/-- Reads the name of an anchor or alias at its mark. -/
def anchorName? (c : Cursor) : Option (List Char × Cursor) :=
  let (name, next) := c.advance.span isWordChar
  if name ≠ [] ∧ endsAnchor next.rest then some (name, next) else none

/-- Whether a character can stand in a tag; brackets and commas only in a verbatim one. -/
def isTagChar (isVerbatim : Bool) (c : Char) : Bool :=
  isWordChar c || ";/?:@&=+$.%!~*'()".toList.contains c || (isVerbatim && ",[]".toList.contains c)

/-- The octet of an escape in a tag: a percent sign and two hexadecimal digits. -/
def tagOctet? : List Char → Option Nat
  | '%' :: a :: b :: _ => Numeral.read? 16 [a, b]
  | _ => none

/-- The number of octets that a character takes, and the bits that the first one gives. -/
def octetCount? (octet : Nat) : Option (Nat × Nat) :=
  if octet < 0x80 then some (1, octet)
  else if octet / 32 = 6 then some (2, octet % 32)
  else if octet / 16 = 14 then some (3, octet % 16)
  else if octet / 8 = 30 then some (4, octet % 8)
  else none

/-- Adds the bits of so many further octets. -/
def furtherOctets? (count bits : Nat) (cs : List Char) : Option Nat :=
  match count with
  | 0 => some bits
  | count + 1 =>
    match tagOctet? cs with
    | some octet =>
      if octet / 64 = 2 then furtherOctets? count (bits * 64 + octet % 64) (cs.drop 3) else none
    | none => none

/-- The character that escapes in a tag give, and how many further escapes it takes. -/
def tagEscape? (cs : List Char) : Option (Char × Nat) := do
  let (count, bits) ← octetCount? (← tagOctet? cs)
  let c ← codePoint? (← furtherOctets? (count - 1) bits (cs.drop 3))
  some (c, count - 1)

/-- Reads the characters of a tag; `sofar` holds those read before, the last one first. -/
def tagCharsFrom? (isVerbatim : Bool) (sofar : List Char) (c : Cursor) :
    Option (List Char × Cursor) :=
  match _h : c.rest with
  | [] => some (sofar.reverse, c)
  | ch :: _ =>
    if ch = '%' then
      match tagEscape? c.rest with
      | some (d, more) => tagCharsFrom? isVerbatim (d :: sofar) (c.skip (3 * more + 3))
      | none => none
    else if isTagChar isVerbatim ch then tagCharsFrom? isVerbatim (ch :: sofar) c.advance
    else some (sofar.reverse, c)
  termination_by c.rest.length
  decreasing_by
    · exact Cursor.length_skip _h (3 * more + 2)
    · exact Cursor.length_advance _h

/-- Reads a tag handle at its `!`: letters, and a second `!` if there is one. -/
def tagHandle (c : Cursor) : List Char × Cursor :=
  let (name, next) := c.advance.span isWordChar
  if next.isAt '!' then ('!' :: name ++ ['!'], next.advance) else ('!' :: name, next)

/-- Reads a tag at its `!`. -/
def tag? (inFlow : Bool) (c : Cursor) : Option (Token × Cursor) := do
  let (token, next) ←
    if c.advance.isAt '<' then do
      let (suffix, next) ← tagCharsFrom? true [] (c.skip 2)
      if suffix ≠ [] ∧ next.isAt '>' then some (Token.tag [] suffix, next.advance) else none
    else
      let (handle, next) := tagHandle c
      if 1 < handle.length ∧ handle.getLast? = some '!' then do
        let (suffix, next) ← tagCharsFrom? false [] next
        if suffix ≠ [] then some (Token.tag handle suffix, next) else none
      else do
        let (suffix, next) ← tagCharsFrom? false handle.tail.reverse next
        some (if suffix = [] then Token.tag [] ['!'] else Token.tag ['!'] suffix, next)
  if startsBlank next.rest ∨ (inFlow ∧ next.isAt ',') then some (token, next) else none

/-- Reads the number of a version: at most nine digits. -/
def versionNumber? (c : Cursor) : Option (Nat × Cursor) :=
  let (digits, next) := c.span Char.isDigit
  if digits.length ≤ 9 then (Numeral.read? 10 digits).map (·, next) else none

/-- Reads the two numbers of a version directive. -/
def version? (c : Cursor) : Option (Token × Cursor) := do
  let (major, c) ← versionNumber? (c.skipWhile isBlank)
  if c.isAt '.' then
    let (minor, c) ← versionNumber? c.advance
    some (.version major minor, c)
  else none

/-- Reads the handle and the start of tags of a tag directive. -/
def tagDirective? (c : Cursor) : Option (Token × Cursor) := do
  let c := c.skipWhile isBlank
  if c.isAt '!' then
    let (handle, c) := tagHandle c
    if (handle.getLast? = some '!') ∧ c.peek?.any isBlank then
      let (start, c) ← tagCharsFrom? true [] (c.skipWhile isBlank)
      if start ≠ [] ∧ startsBlank c.rest then some (.tagHandle handle start, c) else none
    else none
  else none

/-- Reads a directive at its `%`, up to the end of the line.  There are two: one for the
version and one for tag handles. -/
def directive? (c : Cursor) : Option (Token × Cursor) := do
  let (name, c) := c.advance.span isWordChar
  let (token, c) ←
    if ¬ startsBlank c.rest then none
    else if name = "YAML".toList then version? c
    else if name = "TAG".toList then tagDirective? c
    else none
  some (token, ← c.finishLine?)

end Yaml
end LaunchPlan
