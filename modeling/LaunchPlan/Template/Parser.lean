import LaunchPlan.Template.Basic
import LaunchPlan.Text.Blank
import LaunchPlan.Text.Word

/-! # Reading templates

In a text, `$(var NAME)`, `$(env NAME)`, `$(env NAME DEFAULT)` and
`$(optenv NAME [DEFAULT])` stand for deferred values; all else is literal.

A *pattern* is `$(`, a run of word characters (the kind), a body and `)`.  The body
is empty, or starts with a blank, goes on for at least one more character and holds
no `)`.  `Pattern.at?` reads the pattern at the head of a text.  `Template.parse`
takes the patterns from left to right, each where the one before ended; what lies
between them is literal.  A pattern of an unknown kind, or with the wrong number of
words in its body, is an error.
-/
namespace LaunchPlan

open Text (isBlank isWordChar words)

/-- An occurrence of a pattern in a text. -/
structure Pattern where
  /-- The word characters after `$(`. -/
  kind : List Char
  /-- What lies between the kind and `)`. -/
  body : List Char
  deriving DecidableEq

namespace Pattern

/-- The text of a pattern. -/
def toList (p : Pattern) : List Char := '$' :: '(' :: (p.kind ++ p.body ++ [')'])

/-- The arguments of a pattern: the words of its body. -/
def args (p : Pattern) : List String := (words p.body).map String.ofList

/-- Whether a text can stand between the kind and `)`. -/
def isBody : List Char → Bool
  | [] => true
  | [_] => false
  | c :: _ :: _ => isBlank c

/-- Reads the pattern at the head of a text; the second part is what follows it. -/
def at? : List Char → Option (Pattern × List Char)
  | '$' :: '(' :: cs =>
    let kind := cs.takeWhile isWordChar
    let afterKind := cs.dropWhile isWordChar
    let body := afterKind.takeWhile (· ≠ ')')
    match afterKind.dropWhile (· ≠ ')') with
    | _ :: rest => if kind ≠ [] ∧ isBody body then some (⟨kind, body⟩, rest) else none
    | [] => none
  | _ => none

/-- A pattern and what follows it make up the text it was read from. -/
theorem toList_append_of_at? {cs rest : List Char} {p : Pattern} (h : at? cs = some (p, rest)) :
    p.toList ++ rest = cs := by
  unfold at? at h
  split at h
  · rename_i cs
    simp only at h
    split at h
    · rename_i c r hd
      split at h
      · simp only [Option.some.injEq, Prod.mk.injEq] at h
        obtain ⟨rfl, rfl⟩ := h
        have hc : c = ')' := by
          have := List.head?_dropWhile_not (fun c => decide (c ≠ ')')) (cs.dropWhile isWordChar)
          rw [hd] at this
          simpa using this
        subst hc
        simp only [toList, List.cons_append, List.append_assoc, List.nil_append, List.cons.injEq,
          true_and]
        rw [← hd, List.takeWhile_append_dropWhile, List.takeWhile_append_dropWhile]
      · simp at h
    · simp at h
  · simp at h

/-- What follows a pattern is shorter than the text. -/
theorem length_of_at? {cs rest : List Char} {p : Pattern} (h : at? cs = some (p, rest)) :
    rest.length < cs.length := by
  have := congrArg List.length (toList_append_of_at? h)
  simp only [toList, List.cons_append, List.length_cons, List.length_append] at this
  omega

end Pattern

/-- How many arguments a kind of pattern takes. -/
inductive Arity where
  /-- Exactly one. -/
  | one
  /-- One, and optionally a second. -/
  | oneOrTwo
  deriving DecidableEq

/-- The number of arguments in words. -/
def Arity.describe : Arity → String
  | .one => "1"
  | .oneOrTwo => "1 or 2"

/-- Why a text is not a template. -/
inductive TemplateError where
  /-- There is no such kind of pattern. -/
  | unknownKind (kind : String)
  /-- The pattern has too few or too many arguments. -/
  | arity (pattern : String) (expected : Arity)
  deriving DecidableEq

/-- The wording of a template error. -/
def TemplateError.message : TemplateError → String
  | unknownKind kind => "Unknown substitution type: " ++ kind
  | arity pattern expected =>
    "Substitution '" ++ pattern ++ "' expects " ++ expected.describe ++ " argument(s)"

/-- The unit that a pattern stands for. -/
def Pattern.toSubstitution (p : Pattern) : Except TemplateError Substitution :=
  match String.ofList p.kind, p.args with
  | "var", [name] => .ok (.configuration (Template.literal name) none)
  | "var", _ => .error (.arity (String.ofList p.toList) .one)
  | "env", [name] => .ok (.variable (Template.literal name) none)
  | "env", [name, default] =>
    .ok (.variable (Template.literal name) (some (Template.literal default)))
  | "env", _ => .error (.arity (String.ofList p.toList) .oneOrTwo)
  | "optenv", [name] => .ok (.variable (Template.literal name) (some []))
  | "optenv", [name, default] =>
    .ok (.variable (Template.literal name) (some (Template.literal default)))
  | "optenv", _ => .error (.arity (String.ofList p.toList) .oneOrTwo)
  | kind, _ => .error (.unknownKind kind)

namespace Template

/-- The literal unit for a gap between patterns; an empty gap has none.  The gap comes
with its last character first. -/
def ofGap (gap : List Char) : Template :=
  if gap.isEmpty then [] else [.text (String.ofList gap.reverse)]

/-- Reads the rest of a text; `gap` holds the characters since the last pattern, the
last one first. -/
def parseFrom (gap : List Char) (cs : List Char) : Except TemplateError Template :=
  match cs with
  | [] => .ok (ofGap gap)
  | c :: tail =>
    match _h : Pattern.at? (c :: tail) with
    | none => parseFrom (c :: gap) tail
    | some (p, rest) => do
      let part ← p.toSubstitution
      let parts ← parseFrom [] rest
      .ok (ofGap gap ++ part :: parts)
  termination_by cs.length
  decreasing_by
    · simp
    · exact Pattern.length_of_at? _h

/-- Reads a text as a template. -/
def parse (s : String) : Except TemplateError Template := parseFrom [] s.toList

end Template

end LaunchPlan
