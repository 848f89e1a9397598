import LaunchPlan.Yaml.Cursor

/-! # Plain scalars

A scalar without quotes ends at a colon that a blank follows, at a comment, at a mark of
documents, inside brackets at a comma or a bracket, and outside of them where a line is
indented less than it has to be.  Line ends inside it are folded.
-/
namespace LaunchPlan
namespace Yaml

/-- Whether a character separates or encloses items inside brackets. -/
def isFlowIndicator (c : Char) : Bool :=
  c == ',' || c == '[' || c == ']' || c == '\x7b' || c == '\x7d'

/-- A plain scalar that was read. -/
structure PlainScalar where
  /-- Its text. -/
  text : List Char
  /-- Whether a line end follows it. -/
  isBroken : Bool
  /-- What follows it. -/
  next : Cursor

/-- Reads the rest of a plain scalar: `sofar` holds its text, the last character first, and
`gap` what lies between that and the position.  Inside brackets a colon may not stand before
a comma, a bracket or a question mark. -/
def plainFrom? (inFlow : Bool) (indent : Nat) (sofar : List Char) (gap : Gap) (c : Cursor) :
    Option PlainScalar :=
  match _h : c.rest with
  | [] => some ⟨sofar.reverse, gap.isBroken, c⟩
  | ch :: rest =>
    if _blank : isBlank ch || isBreak ch then
      match _gap : readGap? indent .empty c with
      | none => none
      | some (g, next) =>
        if next.isAtDocumentMark ∨ next.isAt '#' ∨ (inFlow = false ∧ next.column < indent) then
          some ⟨sofar.reverse, g.isBroken, next⟩
        else plainFrom? inFlow indent sofar g next
    else if inFlow ∧ ch = ':' ∧ rest.head?.any (fun d => isFlowIndicator d || d == '?') then none
    else if (ch = ':' ∧ startsBlank rest) ∨ (inFlow ∧ isFlowIndicator ch) then
      some ⟨sofar.reverse, gap.isBroken, c⟩
    else plainFrom? inFlow indent (ch :: (gap.fold.reverse ++ sofar)) .empty c.advance
  termination_by c.rest.length
  decreasing_by
    · exact length_readGap?_lt _h _blank _gap
    · exact Cursor.length_advance _h

/-- Reads a plain scalar; lines that go on with it are indented to the column `indent`. -/
def plain? (inFlow : Bool) (indent : Nat) (c : Cursor) : Option PlainScalar :=
  plainFrom? inFlow indent [] .empty c

end Yaml
end LaunchPlan
