import LaunchPlan.Xml.Reference

/-! # Tokens of XML

A document is a sequence of tags, comments, instructions and text.  `Token.next?` reads
the token at the head of a text, `tokens?` all of them.  A document type declaration is
no token: documents that have one are refused.
-/
namespace LaunchPlan
namespace Xml

/-- A piece of a document. -/
inductive Token where
  /-- A start tag, or the tag of an empty element. -/
  | openTag (name : Name) (attributes : List (Name × List Char)) (isEmpty : Bool)
  /-- An end tag. -/
  | closeTag (name : Name)
  /-- Text between tags; `isBlank` says that it is written with white space alone. -/
  | text (content : List Char) (isBlank : Bool)
  /-- Text in which no markup is recognised. -/
  | literal (content : List Char)
  /-- A comment. -/
  | comment (content : List Char)
  /-- A processing instruction. -/
  | instruction (target content : List Char)

/-- What precedes a mark and what follows it. -/
def cutAt? (mark : List Char) : List Char → Option (List Char × List Char)
  | [] => none
  | c :: rest =>
    if mark.isPrefixOf (c :: rest) then some ([], (c :: rest).drop mark.length)
    else
      match cutAt? mark rest with
      | some (before, after) => some (c :: before, after)
      | none => none

theorem length_cutAt? {mark cs : List Char} {r : List Char × List Char}
    (h : cutAt? mark cs = some r) : r.2.length ≤ cs.length := by
  fun_induction cutAt? mark cs generalizing r <;> grind

/-- What follows a mark at the head of a text. -/
def after? (mark cs : List Char) : Option (List Char) :=
  if mark.isPrefixOf cs then some (cs.drop mark.length) else none

theorem length_after? {mark cs rest : List Char} (h : after? mark cs = some rest) :
    rest.length ≤ cs.length := by
  grind [after?]

/-- What precedes a mark, which must be fit for a document, and what follows the mark. -/
def contentUntil? (mark : String) (cs : List Char) : Option (List Char × List Char) := do
  let (content, rest) ← cutAt? mark.toList cs
  if content.all isDocumentChar then some (content, rest) else none

theorem length_contentUntil? {mark : String} {cs : List Char} {r : List Char × List Char}
    (h : contentUntil? mark cs = some r) : r.2.length ≤ cs.length := by
  obtain ⟨q, cut, h⟩ := Option.bind_eq_some_iff.mp h
  have := length_cutAt? cut
  grind

/-- The text without the white space at its head. -/
def skipSpace (cs : List Char) : List Char := cs.dropWhile isSpace

theorem length_skipSpace (cs : List Char) : (skipSpace cs).length ≤ cs.length :=
  (List.dropWhile_suffix isSpace).length_le

/-- Reads an attribute; its value comes as it is written. -/
def attribute? (cs : List Char) : Option ((Name × List Char) × List Char) := do
  let (name, cs) ← name? cs
  let cs ← after? ['='] (skipSpace cs)
  match skipSpace cs with
  | quote :: cs =>
    if quote = '"' ∨ quote = '\'' then
      let value := cs.takeWhile (· ≠ quote)
      match cs.dropWhile (· ≠ quote) with
      | _ :: rest =>
        if value.all isDocumentChar ∧ '<' ∉ value then some ((name, value), rest) else none
      | [] => none
    else none
  | [] => none

/-- An attribute takes up a part of the text. -/
theorem length_attribute? {cs : List Char} {r : (Name × List Char) × List Char}
    (h : attribute? cs = some r) : r.2.length < cs.length := by
  obtain ⟨⟨name, afterName⟩, hname, h⟩ := Option.bind_eq_some_iff.mp h
  obtain ⟨value, hvalue, h⟩ := Option.bind_eq_some_iff.mp h
  have shorter := length_name? hname
  have afterSpace := length_skipSpace afterName
  have afterEqual := length_after? hvalue
  have beforeValue := length_skipSpace value
  split at h
  · rename_i quote cs hcs
    have := (List.dropWhile_suffix (l := cs) (· ≠ quote)).length_le
    grind
  · simp at h

/-- What the inside of a start tag holds: the attributes, whether the element is empty, and
what follows the tag. -/
structure TagBody where
  /-- The attributes. -/
  attributes : List (Name × List Char)
  /-- Whether the tag is that of an empty element. -/
  isEmpty : Bool
  /-- What follows the tag. -/
  rest : List Char

/-- Reads the inside of a start tag, behind its name. -/
def tagBody? (cs : List Char) : Option TagBody :=
  match _inside : skipSpace cs with
  | '>' :: rest => some ⟨[], false, rest⟩
  | '/' :: '>' :: rest => some ⟨[], true, rest⟩
  | inside =>
    if cs.head?.all isSpace then
      match _attribute : attribute? inside with
      | some ((name, value), rest) => do
        let value ← attributeValue? value
        let body ← tagBody? rest
        some { body with attributes := (name, value) :: body.attributes }
      | none => none
    else none
  termination_by cs.length
  decreasing_by
    exact Nat.lt_of_lt_of_le (length_attribute? _attribute) (_inside ▸ length_skipSpace cs)

theorem length_tagBody? {cs : List Char} {body : TagBody} (h : tagBody? cs = some body) :
    body.rest.length < cs.length := by
  fun_induction tagBody? cs generalizing body with
  | case1 cs rest inside | case2 cs rest inside =>
    have := length_skipSpace cs
    grind
  | case3 cs _ name value rest _ _ hattribute ih =>
    obtain ⟨_, _, h⟩ := Option.bind_eq_some_iff.mp h
    obtain ⟨inner, hinner, h⟩ := Option.bind_eq_some_iff.mp h
    have := length_skipSpace cs
    have := length_attribute? hattribute
    have := ih hinner
    grind
  | case4 | case5 => simp at h

namespace Token

/-- Reads a start tag, behind its `<`. -/
def open? (cs : List Char) : Option (Token × List Char) := do
  let (name, cs) ← name? cs
  let body ← tagBody? cs
  some (openTag name body.attributes body.isEmpty, body.rest)

theorem length_open? {cs : List Char} {r : Token × List Char} (h : open? cs = some r) :
    r.2.length ≤ cs.length := by
  obtain ⟨⟨_, afterName⟩, hname, h⟩ := Option.bind_eq_some_iff.mp h
  obtain ⟨body, hbody, h⟩ := Option.bind_eq_some_iff.mp h
  have := length_name? hname
  have := length_tagBody? hbody
  grind

/-- Reads an end tag, behind its `</`. -/
def close? (cs : List Char) : Option (Token × List Char) := do
  let (name, cs) ← name? cs
  let rest ← after? ['>'] (skipSpace cs)
  some (closeTag name, rest)

theorem length_close? {cs : List Char} {r : Token × List Char} (h : close? cs = some r) :
    r.2.length ≤ cs.length := by
  obtain ⟨⟨_, afterName⟩, hname, h⟩ := Option.bind_eq_some_iff.mp h
  obtain ⟨rest, hrest, h⟩ := Option.bind_eq_some_iff.mp h
  have := length_name? hname
  have := length_skipSpace afterName
  have := length_after? hrest
  grind

/-- Reads a comment, behind its `<!--`; it holds no two hyphens in a row. -/
def comment? (cs : List Char) : Option (Token × List Char) := do
  let (content, rest) ← contentUntil? "-->" cs
  if (cutAt? ['-', '-'] content).isSome ∨ content.getLast? = some '-' then none
  else some (comment content, rest)

theorem length_comment? {cs : List Char} {r : Token × List Char} (h : comment? cs = some r) :
    r.2.length ≤ cs.length := by
  obtain ⟨q, hcontent, h⟩ := Option.bind_eq_some_iff.mp h
  have := length_contentUntil? hcontent
  split at h
  split at h
  · simp at h
  · grind

/-- Reads text in which no markup is recognised, behind its `<![CDATA[`. -/
def literal? (cs : List Char) : Option (Token × List Char) := do
  let (content, rest) ← contentUntil? "]]>" cs
  some (literal content, rest)

theorem length_literal? {cs : List Char} {r : Token × List Char} (h : literal? cs = some r) :
    r.2.length ≤ cs.length := by
  obtain ⟨q, hcontent, h⟩ := Option.bind_eq_some_iff.mp h
  obtain rfl := Option.some.inj h
  exact length_contentUntil? hcontent

/-- Reads a processing instruction, behind its `<?`. -/
def instruction? (cs : List Char) : Option (Token × List Char) := do
  let (target, cs) ← plainName? cs
  let (content, rest) ← contentUntil? "?>" (skipSpace cs)
  some (instruction target content, rest)

theorem length_instruction? {cs : List Char} {r : Token × List Char}
    (h : instruction? cs = some r) : r.2.length ≤ cs.length := by
  obtain ⟨⟨_, afterName⟩, hname, h⟩ := Option.bind_eq_some_iff.mp h
  obtain ⟨q, hcontent, h⟩ := Option.bind_eq_some_iff.mp h
  have := length_plainName? hname
  have := length_skipSpace afterName
  have := length_contentUntil? hcontent
  grind

/-- Reads text up to the next tag; it does not hold the end mark of literal text. -/
def text? (cs : List Char) : Option (Token × List Char) := do
  let raw := cs.takeWhile (· ≠ '<')
  if raw.all isDocumentChar ∧ (cutAt? [']', ']', '>'] raw).isNone then
    let content ← textValue? raw
    some (text content (raw.all isSpace), cs.dropWhile (· ≠ '<'))
  else none

/-- Text that does not start with a tag takes up a character. -/
theorem length_text? {c : Char} {cs : List Char} {r : Token × List Char} (hc : c ≠ '<')
    (h : text? (c :: cs) = some r) : r.2.length ≤ cs.length := by
  have := (List.dropWhile_suffix (l := cs) (· ≠ '<')).length_le
  simp only [text?] at h
  split at h
  · obtain ⟨content, _, h⟩ := Option.bind_eq_some_iff.mp h
    obtain rfl := Option.some.inj h
    simpa [hc] using this
  · simp at h

/-- Reads the token at the head of a text. -/
def next? : List Char → Option (Token × List Char)
  | '<' :: '/' :: rest => close? rest
  | '<' :: '!' :: '-' :: '-' :: rest => comment? rest
  | '<' :: '!' :: '[' :: 'C' :: 'D' :: 'A' :: 'T' :: 'A' :: '[' :: rest => literal? rest
  | '<' :: '?' :: 'x' :: 'm' :: 'l' :: ' ' :: _ => none
  | '<' :: '?' :: rest => instruction? rest
  | '<' :: rest => open? rest
  | cs => text? cs

/-- A token takes up a part of the text. -/
theorem length_next? {cs : List Char} {r : Token × List Char} (hcs : cs ≠ [])
    (h : next? cs = some r) : r.2.length < cs.length := by
  unfold next? at h
  split at h
  · exact Nat.lt_of_le_of_lt (length_close? h) (by simp only [List.length_cons]; omega)
  · exact Nat.lt_of_le_of_lt (length_comment? h) (by simp only [List.length_cons]; omega)
  · exact Nat.lt_of_le_of_lt (length_literal? h) (by simp only [List.length_cons]; omega)
  · simp at h
  · exact Nat.lt_of_le_of_lt (length_instruction? h) (by simp only [List.length_cons]; omega)
  · exact Nat.lt_of_le_of_lt (length_open? h) (by simp only [List.length_cons]; omega)
  · rename_i noTag
    obtain ⟨c, cs, rfl⟩ := List.exists_cons_of_ne_nil hcs
    have hc : c ≠ '<' := fun hc => noTag cs (hc ▸ rfl)
    exact Nat.lt_of_le_of_lt (length_text? hc h) (by simp only [List.length_cons]; omega)

end Token

/-- All tokens of a text. -/
def tokens? (cs : List Char) : Option (List Token) :=
  if _empty : cs = [] then some []
  else
    match _next : Token.next? cs with
    | some (token, rest) => (token :: ·) <$> tokens? rest
    | none => none
  termination_by cs.length
  decreasing_by exact Token.length_next? _empty _next

/-- Skips the white space that has to separate the parts of a declaration. -/
def separated? (cs : List Char) : Option (List Char) :=
  if cs.head?.all isSpace ∨ ['?', '>'].isPrefixOf cs then some (skipSpace cs) else none

/-- Reads a part of a declaration, if it is there. -/
def declared? (name : String) (cs : List Char) : Option (List Char) :=
  if name.toList.isPrefixOf cs then do
    let (_, rest) ← attribute? cs
    separated? rest
  else some cs

/-- What follows the declaration at the head of a document, if there is one.  A declaration
has a version, then perhaps an encoding, then perhaps a note that it stands alone. -/
def afterDeclaration? (cs : List Char) : Option (List Char) :=
  match after? "<?xml ".toList cs with
  | none => some cs
  | some rest =>
    if "version".toList.isPrefixOf (skipSpace rest) then do
      let rest ← declared? "version" (skipSpace rest)
      let rest ← declared? "encoding" rest
      let rest ← declared? "standalone" rest
      after? ['?', '>'] (skipSpace rest)
    else none

end Xml
end LaunchPlan
