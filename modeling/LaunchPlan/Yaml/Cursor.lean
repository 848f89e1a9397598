/-! # Reading a YAML text

The characters that structure a YAML text, and a position in it.  Line ends are unified
before anything is read, so that a carriage return never occurs; the separators of lines
and paragraphs stay as they are.
-/
namespace LaunchPlan
namespace Yaml

/-- Whether a text may hold a character. -/
def isAllowed (c : Char) : Bool :=
  let n := c.toNat
  n == 9 || n == 10 || n == 13 || (32 ≤ n && n ≤ 126) || n == 0x85 ||
    (0xA0 ≤ n && n ≤ 0xFFFD) || 0x10000 ≤ n

/-- Makes a line feed of every other way to end a line. -/
def unifyLineEnds : List Char → List Char
  | [] => []
  | '\r' :: '\n' :: rest => '\n' :: unifyLineEnds rest
  | c :: rest =>
    (if c = '\r' ∨ c = '\u0085' then '\n' else c) :: unifyLineEnds rest

/-- Whether a character is a space or a tab. -/
def isBlank (c : Char) : Bool := c == ' ' || c == '\t'

/-- Whether a character ends a line. -/
def isBreak (c : Char) : Bool := c == '\n' || c == '\u2028' || c == '\u2029'

/-- Whether a character is a letter, a digit, a hyphen or an underscore of ASCII. -/
def isWordChar (c : Char) : Bool := c.isAlphanum || c == '-' || c == '_'

/-- Whether a text is at its end or starts with a blank or a line end. -/
def startsBlank : List Char → Bool
  | [] => true
  | c :: _ => isBlank c || isBreak c

/-- A position in a text. -/
structure Cursor where
  /-- The text from here on. -/
  rest : List Char
  /-- The number of characters before. -/
  index : Nat
  /-- The number of lines before. -/
  line : Nat
  /-- The number of characters before on this line. -/
  column : Nat

namespace Cursor

/-- The start of a text. -/
def start (cs : List Char) : Cursor := ⟨cs, 0, 0, 0⟩

/-- The position behind the next character. -/
def advance (c : Cursor) : Cursor :=
  match c.rest with
  | [] => c
  | ch :: rest =>
    if isBreak ch then ⟨rest, c.index + 1, c.line + 1, 0⟩
    else ⟨rest, c.index + 1, c.line, c.column + 1⟩

/-- The position behind so many characters. -/
def skip (n : Nat) (c : Cursor) : Cursor := n.repeat advance c

/-- The characters up to the first that `p` refuses, and the position of that one. -/
def span (p : Char → Bool) (c : Cursor) : List Char × Cursor :=
  let taken := c.rest.takeWhile p
  (taken, c.skip taken.length)

/-- The position behind the characters that `p` accepts. -/
def skipWhile (p : Char → Bool) (c : Cursor) : Cursor := (c.span p).2

/-- The next character. -/
def peek? (c : Cursor) : Option Char := c.rest.head?

/-- Whether the next character is `ch`. -/
def isAt (c : Cursor) (ch : Char) : Bool := c.peek? == some ch

/-- Whether a line starts here with a mark of documents: three hyphens or three full stops,
set off by a blank. -/
def isAtDocumentMark (c : Cursor) : Bool :=
  c.column == 0 &&
    match c.rest with
    | '-' :: '-' :: '-' :: rest => startsBlank rest
    | '.' :: '.' :: '.' :: rest => startsBlank rest
    | _ => false

/-- Skips blanks and a comment; only a line end or the end of the text may follow. -/
def finishLine? (c : Cursor) : Option Cursor :=
  let c := c.skipWhile isBlank
  let c := if c.isAt '#' then c.skipWhile (fun ch => !isBreak ch) else c
  if c.peek?.all isBreak then some c.advance else none

@[simp] theorem rest_advance (c : Cursor) : c.advance.rest = c.rest.tail := by
  unfold advance
  split
  · simp_all
  · split <;> simp_all

theorem length_advance {c : Cursor} {ch : Char} {t : List Char} (h : c.rest = ch :: t) :
    c.advance.rest.length < c.rest.length := by
  simp [h]

@[simp] theorem rest_skip (n : Nat) (c : Cursor) : (c.skip n).rest = c.rest.drop n := by
  unfold skip
  induction n with
  | zero => rfl
  | succ n ih => rw [Nat.repeat, rest_advance, ih, List.tail_drop]

theorem length_skipWhile (p : Char → Bool) (c : Cursor) :
    (c.skipWhile p).rest.length ≤ c.rest.length := by
  simp [skipWhile, span]

theorem length_skip {c : Cursor} {ch : Char} {t : List Char} (h : c.rest = ch :: t) (n : Nat) :
    (c.skip (n + 1)).rest.length < c.rest.length := by
  rw [rest_skip, h, List.drop_succ_cons, List.length_drop, List.length_cons]
  omega

end Cursor

/-- What lies between two words of a scalar: blanks, or line ends with the blanks around
them. -/
structure Gap where
  /-- The blanks before the first line end, the last one first. -/
  blanks : List Char
  /-- Whether there was a line end. -/
  isBroken : Bool
  /-- The first line end, unless it was escaped. -/
  first : Option Char
  /-- The further line ends. -/
  further : List Char

namespace Gap

/-- The gap of nothing. -/
def empty : Gap := ⟨[], false, none, []⟩

/-- The gap of an escaped line end. -/
def escaped : Gap := ⟨[], true, none, []⟩

/-- The gap with another blank; behind a line end blanks do not count. -/
def addBlank (g : Gap) (c : Char) : Gap :=
  if g.isBroken then g else { g with blanks := c :: g.blanks }

/-- The gap with another line end. -/
def addBreak (g : Gap) (c : Char) : Gap :=
  if g.isBroken then { g with further := g.further ++ [c] } else ⟨[], true, some c, []⟩

/-- What a gap contributes to the scalar: a single line feed is folded into a space, and of
several the first is dropped. -/
def fold (g : Gap) : List Char :=
  if g.isBroken then
    if g.first = some '\n' then if g.further.isEmpty then [' '] else g.further
    else g.first.toList ++ g.further
  else g.blanks.reverse

end Gap

/-- Reads a gap; `g` holds what was read of it.  Behind a line end, a tab before the column
`indent` is an error. -/
def readGap? (indent : Nat) (g : Gap) (c : Cursor) : Option (Gap × Cursor) :=
  match _h : c.rest with
  | [] => some (g, c)
  | ch :: _ =>
    if isBlank ch then
      if g.isBroken ∧ c.column < indent ∧ ch = '\t' then none
      else readGap? indent (g.addBlank ch) c.advance
    else if isBreak ch then readGap? indent (g.addBreak ch) c.advance
    else some (g, c)
  termination_by c.rest.length
  decreasing_by
    · exact Cursor.length_advance _h
    · exact Cursor.length_advance _h

/-- A gap ends no earlier than it starts. -/
theorem length_readGap? {indent : Nat} {g g' : Gap} {c next : Cursor}
    (h : readGap? indent g c = some (g', next)) : next.rest.length ≤ c.rest.length := by
  fun_induction readGap? indent g c with
  | case1 => simp_all
  | case2 => simp at h
  | case3 g c ch t hc _ _ ih => exact Nat.le_trans (ih h) (Nat.le_of_lt (Cursor.length_advance hc))
  | case4 g c ch t hc _ _ ih => exact Nat.le_trans (ih h) (Nat.le_of_lt (Cursor.length_advance hc))
  | case5 => simp_all

/-- A gap that starts at a blank or a line end takes up a character. -/
theorem length_readGap?_lt {indent : Nat} {g g' : Gap} {c next : Cursor} {ch : Char}
    {t : List Char} (hc : c.rest = ch :: t) (hch : isBlank ch || isBreak ch)
    (h : readGap? indent g c = some (g', next)) : next.rest.length < c.rest.length := by
  have shorter {g : Gap} (h : readGap? indent g c.advance = some (g', next)) :
      next.rest.length < c.rest.length :=
    Nat.lt_of_le_of_lt (length_readGap? h) (Cursor.length_advance hc)
  rw [readGap?.eq_def] at h
  grind

end Yaml
end LaunchPlan
