import LaunchPlan.Yaml.Cursor

/-! # Block scalars

A block scalar is a mark, `|` or `>`, and the indented lines after it.  Behind the mark may
stand how deep the lines are indented and what becomes of the line ends at the end of the
scalar.  With `>`, a line end between two lines that start with no blank is folded.
-/
namespace LaunchPlan
namespace Yaml

/-- What becomes of the line ends at the end of a block scalar. -/
inductive Chomping where
  /-- The last one stays, empty lines are dropped. -/
  | clip
  /-- All are dropped. -/
  | strip
  /-- All stay. -/
  | keep
  deriving DecidableEq

/-- What stands behind the mark of a block scalar. -/
structure BlockHeader where
  /-- What becomes of the line ends at the end. -/
  chomping : Chomping
  /-- How much deeper than their surroundings the lines are indented, if it is said. -/
  increment : Option Nat
  /-- What follows. -/
  next : Cursor

/-- Reads the sign for the line ends at the end. -/
def chomping? (c : Cursor) : Option (Chomping × Cursor) :=
  match c.peek? with
  | some '+' => some (.keep, c.advance)
  | some '-' => some (.strip, c.advance)
  | _ => none

/-- Reads a digit for the indentation. -/
def increment? (c : Cursor) : Option (Nat × Cursor) :=
  match c.peek? with
  | some d => if d.isDigit then some (d.toNat - 48, c.advance) else none
  | none => none

/-- Reads what stands behind the mark, in either order, up to the end of the line; an
indentation of zero is an error. -/
def blockHeader? (c : Cursor) : Option BlockHeader := do
  let (chomping, increment, c) :=
    match chomping? c with
    | some (chomping, c) =>
      match increment? c with
      | some (n, c) => (chomping, some n, c)
      | none => (chomping, none, c)
    | none =>
      match increment? c with
      | some (n, c) =>
        match chomping? c with
        | some (chomping, c) => (chomping, some n, c)
        | none => (.clip, some n, c)
      | none => (.clip, none, c)
  if increment = some 0 then none
  else some ⟨chomping, increment, ← c.finishLine?⟩

/-- What precedes the next line of a block scalar. -/
structure BlockBreaks where
  /-- The line ends of empty lines. -/
  breaks : List Char
  /-- The greatest column that was reached. -/
  deepest : Nat
  /-- The position behind the indentation of the next line. -/
  next : Cursor

/-- Skips indentation and empty lines; without a known indentation all spaces count as such.
A tab instead of an indentation is an error. -/
def blockBreaks? (indent : Option Nat) (sofar : BlockBreaks) : Option BlockBreaks :=
  let inside (column : Nat) : Bool := indent.all (column < ·)
  match _h : sofar.next.rest with
  | [] => some { sofar with deepest := max sofar.deepest sofar.next.column }
  | ch :: _ =>
    if ch = ' ' ∧ inside sofar.next.column then
      blockBreaks? indent { sofar with next := sofar.next.advance }
    else if ch = '\t' ∧ inside sofar.next.column then none
    else
      let deepest := max sofar.deepest sofar.next.column
      if isBreak ch then
        blockBreaks? indent ⟨sofar.breaks ++ [ch], deepest, sofar.next.advance⟩
      else some { sofar with deepest := deepest }
  termination_by sofar.next.rest.length
  decreasing_by
    · exact Cursor.length_advance _h
    · exact Cursor.length_advance _h

/-- The search for the next line goes forward. -/
theorem length_blockBreaks? {indent : Option Nat} {sofar b : BlockBreaks}
    (h : blockBreaks? indent sofar = some b) : b.next.rest.length ≤ sofar.next.rest.length := by
  fun_induction blockBreaks? indent sofar <;> grind [Cursor.length_advance]

/-- The lines of a block scalar read so far. -/
structure BlockLines where
  /-- The text, the last character first, without the line ends at its end. -/
  text : List Char
  /-- The end of the last line. -/
  lastBreak : List Char
  /-- The line ends of the empty lines after it. -/
  breaks : List Char
  /-- Whether the last line starts with a blank. -/
  startedBlank : Bool
  /-- The position behind the indentation of the next line. -/
  next : Cursor

/-- Reads the lines of a block scalar that are indented to the column `indent`. -/
def blockLines? (isLiteral : Bool) (indent : Nat) (s : BlockLines) : Option BlockLines :=
  if _more : s.next.column = indent ∧ s.next.rest ≠ [] then
    let startsBlank := s.next.peek?.any isBlank
    let joint :=
      if !isLiteral && s.lastBreak == ['\n'] && !s.startedBlank && !startsBlank then
        if s.breaks.isEmpty then [' '] else s.breaks
      else s.lastBreak ++ s.breaks
    let line := s.next.rest.takeWhile fun ch => !isBreak ch
    let c := s.next.skip line.length
    let lastBreak := c.peek?.toList
    match _breaks : blockBreaks? (some indent) ⟨[], 0, c.advance⟩ with
    | some b =>
      blockLines? isLiteral indent
        ⟨line.reverse ++ joint.reverse ++ s.text, lastBreak, b.breaks, startsBlank, b.next⟩
    | none => none
  else some s
  termination_by s.next.rest.length
  decreasing_by
    have forward := length_blockBreaks? _breaks
    have more := List.length_pos_iff.mpr _more.2
    simp only [c, Cursor.rest_advance, Cursor.rest_skip, List.length_tail, List.length_drop]
      at forward
    omega

/-- Reads a block scalar at its mark; `parent` is the indentation of its surroundings, which
is -1 at the top. -/
def blockScalar? (isLiteral : Bool) (parent : Int) (c : Cursor) :
    Option (List Char × Cursor) := do
  let header ← blockHeader? c.advance
  let known := header.increment.map fun n => (max parent 0).toNat + n
  let b ← blockBreaks? known ⟨[], 0, header.next⟩
  let indent := known.getD (max b.deepest (max (parent + 1) 1).toNat)
  let lines ← blockLines? isLiteral indent ⟨[], [], b.breaks, false, b.next⟩
  let tail :=
    match header.chomping with
    | .strip => []
    | .clip => lines.lastBreak
    | .keep => lines.lastBreak ++ lines.breaks
  some (lines.text.reverse ++ tail, lines.next)

end Yaml
end LaunchPlan
