import LaunchPlan.Text.Numeral
import LaunchPlan.Yaml.Cursor

/-! # Quoted scalars

Between single quotes only a doubled quote is special.  Between double quotes a backslash
starts an escape: for a character, for a code point in hexadecimal digits, or for a line
end, which then does not count.  In both, line ends are folded.
-/
namespace LaunchPlan
namespace Yaml

/-- The character of a code point. -/
def codePoint? (n : Nat) : Option Char := if n.isValidChar then some (Char.ofNat n) else none

/-- The character that so many hexadecimal digits give. -/
def hexEscape? (count : Nat) (cs : List Char) : Option Char :=
  let digits := cs.take count
  if digits.length < count then none else (Numeral.read? 16 digits).bind codePoint?

/-- The character that an escape stands for, and the length of the escape; it comes without
the backslash. -/
def escape? : List Char → Option (Char × Nat)
  | '0' :: _ => some ('\x00', 1)
  | 'a' :: _ => some ('\x07', 1)
  | 'b' :: _ => some ('\x08', 1)
  | 't' :: _ => some ('\t', 1)
  | '\t' :: _ => some ('\t', 1)
  | 'n' :: _ => some ('\n', 1)
  | 'v' :: _ => some ('\x0b', 1)
  | 'f' :: _ => some ('\x0c', 1)
  | 'r' :: _ => some ('\r', 1)
  | 'e' :: _ => some ('\x1b', 1)
  | ' ' :: _ => some (' ', 1)
  | '"' :: _ => some ('"', 1)
  | '/' :: _ => some ('/', 1)
  | '\\' :: _ => some ('\\', 1)
  | 'N' :: _ => some ('\u0085', 1)
  | '_' :: _ => some ('\u00a0', 1)
  | 'L' :: _ => some ('\u2028', 1)
  | 'P' :: _ => some ('\u2029', 1)
  | 'x' :: cs => (hexEscape? 2 cs).map (·, 3)
  | 'u' :: cs => (hexEscape? 4 cs).map (·, 5)
  | 'U' :: cs => (hexEscape? 8 cs).map (·, 9)
  | _ => none

/-- What stands at a position inside quotes. -/
inductive QuotedPart where
  /-- The closing quote. -/
  | closing
  /-- A character that takes up one character of the text and `more` behind it. -/
  | char (c : Char) (more : Nat)
  /-- A gap between words. -/
  | gap
  /-- An escaped line end. -/
  | escapedBreak

/-- Looks at the text inside quotes. -/
def quotedPart? (quote : Char) : List Char → Option QuotedPart
  | [] => none
  | c :: rest =>
    if isBlank c || isBreak c then some .gap
    else if c = quote then
      if quote = '\'' ∧ rest.head? = some '\'' then some (.char '\'' 1) else some .closing
    else if quote = '"' ∧ c = '\\' then
      if rest.head?.any isBreak then some .escapedBreak
      else (escape? rest).map fun e => .char e.1 e.2
    else some (.char c 0)

/-- At the end of the text there is nothing to see. -/
theorem eq_cons_of_quotedPart? {quote : Char} {cs : List Char} {part : QuotedPart}
    (h : quotedPart? quote cs = some part) : ∃ d rest, cs = d :: rest := by
  cases cs <;> grind [quotedPart?]

/-- A gap inside quotes starts at a blank or a line end. -/
theorem quotedPart?_eq_gap {quote : Char} {cs : List Char}
    (h : quotedPart? quote cs = some .gap) :
    ∃ d rest, cs = d :: rest ∧ (isBlank d || isBreak d) := by
  cases cs <;> grind [quotedPart?, Option.map_eq_some_iff]

/-- Reads the rest of a quoted scalar; `sofar` holds its text, the last character first. -/
def quotedFrom? (quote : Char) (sofar : List Char) (c : Cursor) : Option (List Char × Cursor) :=
  match _part : quotedPart? quote c.rest with
  | none => none
  | some .closing => some (sofar.reverse, c.advance)
  | some (.char ch more) => quotedFrom? quote (ch :: sofar) (c.skip (more + 1))
  | some .gap =>
    match _gap : readGap? 0 .empty c with
    | some (g, next) =>
      if next.isAtDocumentMark then none else quotedFrom? quote (g.fold.reverse ++ sofar) next
    | none => none
  | some .escapedBreak =>
    match _gap : readGap? 0 .escaped (c.skip 2) with
    | some (g, next) =>
      if next.isAtDocumentMark then none else quotedFrom? quote (g.fold.reverse ++ sofar) next
    | none => none
  termination_by c.rest.length
  decreasing_by
    · obtain ⟨_, _, hc⟩ := eq_cons_of_quotedPart? _part
      exact Cursor.length_skip hc more
    · obtain ⟨_, _, hc, blank⟩ := quotedPart?_eq_gap _part
      exact length_readGap?_lt hc blank _gap
    · obtain ⟨_, _, hc⟩ := eq_cons_of_quotedPart? _part
      exact Nat.lt_of_le_of_lt (length_readGap? _gap) (Cursor.length_skip hc 1)

/-- Reads a quoted scalar at its opening quote. -/
def quoted? (quote : Char) (c : Cursor) : Option (List Char × Cursor) :=
  quotedFrom? quote [] c.advance

end Yaml
end LaunchPlan
