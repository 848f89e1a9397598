import LaunchPlan.Text.CharSet

/-! # Blanks

A blank is a character with the property `White_Space`.  Text is trimmed and
split at blanks; `words` gives the maximal runs of other characters (`words_eq_iff`).
-/
namespace LaunchPlan
namespace Text

/-- The characters with the property `White_Space`. -/
def blanks : CharSet :=
  ⟨[(9, 13), (32, 32), (133, 133), (160, 160), (5760, 5760), (8192, 8202), (8232, 8233),
    (8239, 8239), (8287, 8287), (12288, 12288)]⟩

/-- Whether a character is a blank. -/
def isBlank (c : Char) : Bool := blanks.contains c

/-- The text without the blanks at its two ends. -/
def trim (cs : List Char) : List Char :=
  ((cs.dropWhile isBlank).reverse.dropWhile isBlank).reverse

/-- Collects words: `word` holds the characters of the word being read, the last
one first. -/
def wordsFrom (word : List Char) : List Char → List (List Char)
  | [] => if word.isEmpty then [] else [word.reverse]
  | c :: rest =>
    if isBlank c then
      if word.isEmpty then wordsFrom [] rest else word.reverse :: wordsFrom [] rest
    else wordsFrom (c :: word) rest

/-- The maximal runs of characters that are not blanks, in order. -/
def words (cs : List Char) : List (List Char) := wordsFrom [] cs

/-- A word: some characters, and no blank among them. -/
def IsWord (w : List Char) : Prop := w ≠ [] ∧ ∀ c ∈ w, isBlank c = false

/-- **The words of a text**, one after the other.  There may be blanks in front of a word, and behind
it the text is at its end or goes on with a blank. -/
inductive IsWords : List Char → List (List Char) → Prop
  | none {gap} : (∀ c ∈ gap, isBlank c = true) → IsWords gap []
  | word {gap w rest ws} : (∀ c ∈ gap, isBlank c = true) → IsWord w →
      (∀ c ∈ rest.head?, isBlank c = true) → IsWords rest ws →
      IsWords (gap ++ (w ++ rest)) (w :: ws)

theorem words_append_of_blank {gap : List Char} (hgap : ∀ c ∈ gap, isBlank c = true)
    (cs : List Char) : words (gap ++ cs) = words cs := by
  induction gap with
  | nil => rfl
  | cons c gap ih =>
    obtain ⟨hc, hgap⟩ := List.forall_mem_cons.mp hgap
    rw [List.cons_append, words, wordsFrom, if_pos hc]
    exact ih hgap

theorem wordsFrom_append {w : List Char} (hw : ∀ c ∈ w, isBlank c = false) (word cs : List Char) :
    wordsFrom word (w ++ cs) = wordsFrom (w.reverse ++ word) cs := by
  induction w generalizing word with
  | nil => rfl
  | cons c w ih =>
    obtain ⟨hc, hw⟩ := List.forall_mem_cons.mp hw
    simp [wordsFrom, hc, ih hw]

theorem words_append_of_isWord {w rest : List Char} (hw : IsWord w)
    (hrest : ∀ c ∈ rest.head?, isBlank c = true) : words (w ++ rest) = w :: words rest := by
  obtain ⟨hne, hw⟩ := hw
  rw [words, wordsFrom_append hw, List.append_nil]
  cases rest with
  | nil => simp [words, wordsFrom, hne]
  | cons c rest => simp [words, wordsFrom, hne, hrest c rfl]

namespace IsWords
variable {cs : List Char} {ws : List (List Char)}

/-- A blank in front is passed over. -/
theorem blank {c : Char} (hc : isBlank c = true) (h : IsWords cs ws) : IsWords (c :: cs) ws := by
  cases h with
  | none hgap => exact .none (List.forall_mem_cons.mpr ⟨hc, hgap⟩)
  | word hgap hw hrest h =>
    rw [← List.cons_append]
    exact .word (List.forall_mem_cons.mpr ⟨hc, hgap⟩) hw hrest h

/-- A word may stand at the front of a text. -/
theorem front {w : List Char} (hw : IsWord w) (hrest : ∀ c ∈ cs.head?, isBlank c = true)
    (h : IsWords cs ws) : IsWords (w ++ cs) (w :: ws) := by
  rw [← List.nil_append (w ++ cs)]
  exact .word (List.forall_mem_nil _) hw hrest h

theorem words_eq (h : IsWords cs ws) : words cs = ws := by
  induction h with
  | @none gap hgap =>
    rw [← gap.append_nil, words_append_of_blank hgap]
    rfl
  | word hgap hw hrest _ ih => rw [words_append_of_blank hgap, words_append_of_isWord hw hrest, ih]

theorem isWord_of_mem (h : IsWords cs ws) : ∀ w ∈ ws, IsWord w := by
  induction h with
  | none => exact List.forall_mem_nil _
  | word _ hw _ _ ih => exact List.forall_mem_cons.mpr ⟨hw, ih⟩

/-- The characters of words are characters of the text. -/
theorem mem_of_mem (h : IsWords cs ws) : ∀ w ∈ ws, ∀ c ∈ w, c ∈ cs := by
  induction h with
  | none => exact List.forall_mem_nil _
  | word _ _ _ _ ih =>
    refine List.forall_mem_cons.mpr ⟨fun c hc => ?_, fun w hw c hc => ?_⟩
    · exact List.mem_append_right _ (List.mem_append_left _ hc)
    · exact List.mem_append_right _ (List.mem_append_right _ (ih w hw c hc))

end IsWords

theorem IsWord.reverse {w : List Char} (h : IsWord w) : IsWord w.reverse :=
  ⟨List.reverse_ne_nil_iff.mpr h.1, fun c hc => h.2 c (List.mem_reverse.mp hc)⟩

/-- What is collected are the words of the text, with the word that is being read in front. -/
theorem isWords_wordsFrom {word : List Char} (hword : ∀ c ∈ word, isBlank c = false)
    (cs : List Char) : IsWords (word.reverse ++ cs) (wordsFrom word cs) := by
  -- the word that is being read is over at the end of the text and at a blank
  induction cs generalizing word with
  | nil =>
    cases word with
    | nil => exact .none (List.forall_mem_nil _)
    | cons d word =>
      exact .front (IsWord.reverse ⟨List.cons_ne_nil d word, hword⟩) nofun
        (.none (List.forall_mem_nil _))
  | cons c rest ih =>
    unfold wordsFrom
    by_cases hc : isBlank c = true
    · have hrest : IsWords (c :: rest) (wordsFrom [] rest) := (ih (List.forall_mem_nil _)).blank hc
      rw [if_pos hc]
      cases word with
      | nil => exact hrest
      | cons d word =>
        refine .front (IsWord.reverse ⟨List.cons_ne_nil d word, hword⟩) ?_ hrest
        simpa using hc
    · have hcons := ih (List.forall_mem_cons.mpr ⟨eq_false_of_ne_true hc, hword⟩)
      rw [if_neg hc]
      rwa [List.reverse_cons, List.append_assoc] at hcons

theorem isWords_words (cs : List Char) : IsWords cs (words cs) :=
  isWords_wordsFrom (List.forall_mem_nil _) cs

/-- **`words` finds the words of a text.** -/
theorem words_eq_iff {cs : List Char} {ws : List (List Char)} :
    words cs = ws ↔ IsWords cs ws := by
  constructor
  · rintro rfl
    exact isWords_words cs
  · exact IsWords.words_eq

end Text
end LaunchPlan
