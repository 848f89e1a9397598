import LaunchPlan.Template.Parser

/-! # Texts cut at their patterns

The reader of templates meets a text one character at a time.  This module says without the
reader where the patterns of a text are.

* `Pattern.WellFormed` is the shape of a pattern.  Since no blank is a word character, the word
  characters behind `$(` are all there are, and `Pattern.at?_eq_some_iff` says that the reader
  finds at the head of a text exactly the patterns of this shape.
* A `Segmentation` cuts a text into gaps and patterns by turns.  It is proper if no pattern
  begins inside a gap, so that each pattern is the leftmost one behind the pattern before it.

`existsUnique_segmentation` says that every text has exactly one proper segmentation.
-/
namespace LaunchPlan

open Text (isBlank isWordChar)

/-- No blank is a word character. -/
theorem Text.isWordChar_of_isBlank {c : Char} (h : isBlank c = true) : isWordChar c = false := by
  have hall : ∀ r ∈ blanks.ranges, ∀ n ∈ List.range' r.1 (r.2 + 1 - r.1),
      isWordChar (Char.ofNat n) = false := by decide +kernel
  simp only [isBlank, CharSet.contains, List.any_eq_true, Bool.and_eq_true,
    decide_eq_true_eq] at h
  obtain ⟨r, hr, hlo, hhi⟩ := h
  have hc := hall r hr c.toNat (List.mem_range'_1.mpr ⟨hlo, by omega⟩)
  rwa [Char.ofNat_toNat] at hc

namespace Pattern

/-- **The shape of a pattern.**  The kind is a word.  The body is empty, or a blank with at
least one more character behind it; it ends before the first `)`. -/
structure WellFormed (p : Pattern) : Prop where
  kind_ne_nil : p.kind ≠ []
  kind_isWordChar : ∀ c ∈ p.kind, isWordChar c = true
  body : p.body = [] ∨
    ∃ blank more, p.body = blank :: more ∧ isBlank blank = true ∧ more ≠ [] ∧ ')' ∉ more

namespace WellFormed
variable {p : Pattern}

theorem isBody (h : p.WellFormed) : isBody p.body = true := by
  rcases h.body with hb | ⟨blank, more, hb, hblank, hmore, -⟩
  · rw [hb]
    rfl
  · rw [hb]
    cases more with
    | nil => exact absurd rfl hmore
    | cons c more => exact hblank

theorem not_mem_body (h : p.WellFormed) : ')' ∉ p.body := by
  rcases h.body with hb | ⟨blank, more, hb, hblank, -, hmore⟩
  · simp [hb]
  · rw [hb, List.mem_cons, not_or]
    refine ⟨?_, hmore⟩
    rintro rfl
    exact absurd hblank (by decide)

/-- The word characters behind `$(` end with the kind. -/
theorem takeWhile_kind (h : p.WellFormed) (rest : List Char) :
    (p.kind ++ (p.body ++ ')' :: rest)).takeWhile isWordChar = p.kind ∧
      (p.kind ++ (p.body ++ ')' :: rest)).dropWhile isWordChar = p.body ++ ')' :: rest := by
  have hhead : ∃ c tail, p.body ++ ')' :: rest = c :: tail ∧ isWordChar c = false := by
    rcases h.body with hb | ⟨blank, more, hb, hblank, -⟩
    · exact ⟨')', rest, by rw [hb, List.nil_append], by decide +kernel⟩
    · exact ⟨blank, more ++ ')' :: rest, by rw [hb, List.cons_append],
        Text.isWordChar_of_isBlank hblank⟩
  obtain ⟨c, tail, htail, hc⟩ := hhead
  rw [htail, List.takeWhile_append_of_pos h.kind_isWordChar,
    List.dropWhile_append_of_pos h.kind_isWordChar]
  simp [hc]

/-- The characters before the first `)` behind the kind are the body. -/
theorem takeWhile_body (h : p.WellFormed) (rest : List Char) :
    (p.body ++ ')' :: rest).takeWhile (· ≠ ')') = p.body ∧
      (p.body ++ ')' :: rest).dropWhile (· ≠ ')') = ')' :: rest := by
  have hall : ∀ c ∈ p.body, decide (c ≠ ')') = true := by
    intro c hc
    rw [decide_eq_true_eq]
    rintro rfl
    exact h.not_mem_body hc
  rw [List.takeWhile_append_of_pos hall, List.dropWhile_append_of_pos hall]
  simp

end WellFormed

theorem body_of_isBody {body : List Char} (h : isBody body = true) (hend : ')' ∉ body) :
    body = [] ∨
      ∃ blank more, body = blank :: more ∧ isBlank blank = true ∧ more ≠ [] ∧ ')' ∉ more := by
  match body, h with
  | [], _ => exact .inl rfl
  | blank :: c :: more, h =>
    exact .inr ⟨blank, c :: more, rfl, h, List.cons_ne_nil _ _,
      fun hc => hend (List.mem_cons_of_mem _ hc)⟩

/-- What the reader finds at the head of a text has the shape of a pattern. -/
theorem wellFormed_of_at? {cs rest : List Char} {p : Pattern} (h : at? cs = some (p, rest)) :
    p.WellFormed := by
  unfold at? at h
  split at h
  · rename_i cs
    simp only at h
    split at h
    · split at h
      · rename_i hshape
        simp only [Option.some.injEq, Prod.mk.injEq] at h
        obtain ⟨rfl, rfl⟩ := h
        refine ⟨hshape.1, List.all_eq_true.mp List.all_takeWhile, body_of_isBody hshape.2 ?_⟩
        intro hend
        simpa using List.all_eq_true.mp List.all_takeWhile _ hend
      · cases h
    · cases h
  · cases h

/-- **The reader finds the patterns and nothing else.** -/
theorem at?_eq_some_iff {cs rest : List Char} {p : Pattern} :
    at? cs = some (p, rest) ↔ p.WellFormed ∧ p.toList ++ rest = cs := by
  constructor
  · intro h
    exact ⟨wellFormed_of_at? h, toList_append_of_at? h⟩
  · rintro ⟨h, rfl⟩
    obtain ⟨hkind, hafter⟩ := h.takeWhile_kind rest
    obtain ⟨hbody, hrest⟩ := h.takeWhile_body rest
    have htext : p.toList ++ rest = '$' :: '(' :: (p.kind ++ (p.body ++ ')' :: rest)) := by
      simp [toList]
    rw [htext, at?]
    simp only [hkind, hafter, hbody, hrest]
    rw [if_pos ⟨h.kind_ne_nil, h.isBody⟩]

/-- A pattern begins at the head of a text. -/
def BeginsAt (cs : List Char) : Prop := ∃ p rest, WellFormed p ∧ cs = p.toList ++ rest

theorem at?_eq_none_iff {cs : List Char} : at? cs = none ↔ ¬ BeginsAt cs := by
  constructor
  · rintro h ⟨p, rest, hp, rfl⟩
    rw [at?_eq_some_iff.mpr ⟨hp, rfl⟩] at h
    cases h
  · intro h
    cases hat : at? cs with
    | none => rfl
    | some found =>
      obtain ⟨hp, hcs⟩ := at?_eq_some_iff.mp hat
      exact absurd ⟨_, _, hp, hcs.symm⟩ h

/-- At most one pattern begins at the head of a text. -/
theorem WellFormed.toList_append_inj {p q : Pattern} {rest rest' : List Char}
    (hp : p.WellFormed) (hq : q.WellFormed) (h : p.toList ++ rest = q.toList ++ rest') :
    p = q ∧ rest = rest' := by
  have hat := (at?_eq_some_iff.mpr ⟨hp, h⟩).symm.trans (at?_eq_some_iff.mpr ⟨hq, rfl⟩)
  simpa only [Option.some.injEq, Prod.mk.injEq] using hat

end Pattern

/-- A text cut into gaps and patterns by turns, with a gap at each end; gaps can be empty. -/
inductive Segmentation where
  /-- The gap behind the last pattern. -/
  | last (gap : List Char)
  /-- A gap and the pattern behind it. -/
  | next (gap : List Char) (pattern : Pattern) (rest : Segmentation)

namespace Segmentation

/-- The text that was cut. -/
def toList : Segmentation → List Char
  | last gap => gap
  | next gap p rest => gap ++ (p.toList ++ rest.toList)

/-- The gaps, in order. -/
def gaps : Segmentation → List (List Char)
  | last gap => [gap]
  | next gap _ rest => gap :: rest.gaps

/-- The patterns, in order. -/
def patterns : Segmentation → List Pattern
  | last _ => []
  | next _ p rest => p :: rest.patterns

/-- No pattern begins inside a gap, where `after` is the text behind the gap.  A pattern that
begins in the gap could well end behind it. -/
def IsGap (gap after : List Char) : Prop :=
  ∀ before inside, gap = before ++ inside → inside ≠ [] → ¬ Pattern.BeginsAt (inside ++ after)

/-- **The text is cut where its patterns are.**  Each pattern is one, and none begins inside a
gap. -/
def IsProper : Segmentation → Prop
  | last gap => IsGap gap []
  | next gap p rest => IsGap gap (p.toList ++ rest.toList) ∧ p.WellFormed ∧ rest.IsProper

theorem isGap_nil (after : List Char) : IsGap [] after := by
  intro before inside h hne
  exact absurd (List.append_eq_nil_iff.mp h.symm).2 hne

theorem isGap_cons_iff {c : Char} {gap after : List Char} :
    IsGap (c :: gap) after ↔ ¬ Pattern.BeginsAt (c :: (gap ++ after)) ∧ IsGap gap after := by
  constructor
  · intro h
    refine ⟨h [] (c :: gap) rfl (List.cons_ne_nil _ _), fun before inside hgap => ?_⟩
    exact h (c :: before) inside (by rw [hgap, List.cons_append])
  · rintro ⟨hhead, hgap⟩ before inside h hne
    cases before with
    | nil =>
      rw [List.nil_append] at h
      rwa [← h]
    | cons d before =>
      rw [List.cons_append, List.cons.injEq] at h
      exact hgap before inside h.2 hne

/-- A segmentation with one more character in front. -/
def cons (c : Char) : Segmentation → Segmentation
  | last gap => last (c :: gap)
  | next gap p rest => next (c :: gap) p rest

@[simp] theorem toList_cons (c : Char) (d : Segmentation) : (d.cons c).toList = c :: d.toList := by
  cases d <;> rfl

theorem isProper_cons {c : Char} {d : Segmentation} (hd : d.IsProper)
    (h : ¬ Pattern.BeginsAt (c :: d.toList)) : (d.cons c).IsProper := by
  cases d with
  | last gap => exact isGap_cons_iff.mpr ⟨by rwa [List.append_nil], hd⟩
  | next gap p rest => exact ⟨isGap_cons_iff.mpr ⟨h, hd.1⟩, hd.2⟩

/-- Every text can be cut at its patterns. -/
theorem exists_isProper (cs : List Char) : ∃ d : Segmentation, d.IsProper ∧ d.toList = cs := by
  -- on the length of the text, since a pattern takes many characters at once
  induction hn : cs.length using Nat.strongRecOn generalizing cs with
  | ind n ih =>
    subst hn
    cases hat : Pattern.at? cs with
    | some found =>
      obtain ⟨p, rest⟩ := found
      obtain ⟨hp, hcs⟩ := Pattern.at?_eq_some_iff.mp hat
      obtain ⟨d, hd, hrest⟩ := ih rest.length (Pattern.length_of_at? hat) rest rfl
      exact ⟨next [] p d, ⟨isGap_nil _, hp, hd⟩, by rw [toList, hrest, List.nil_append, hcs]⟩
    | none =>
      cases cs with
      | nil => exact ⟨last [], isGap_nil _, rfl⟩
      | cons c tail =>
        obtain ⟨d, hd, rfl⟩ := ih tail.length (by simp) tail rfl
        exact ⟨d.cons c, isProper_cons hd (Pattern.at?_eq_none_iff.mp hat), toList_cons c d⟩

/-- A gap is as long as the other one, unless a pattern begins inside that. -/
theorem IsGap.eq_of_prefix {gap inside after : List Char} (h : IsGap (gap ++ inside) after)
    (hp : inside ++ after = [] ∨ Pattern.BeginsAt (inside ++ after)) : inside = [] := by
  rcases hp with hp | hp
  · exact (List.append_eq_nil_iff.mp hp).1
  · exact Classical.byContradiction fun hne => h gap inside rfl hne hp

/-- Two gaps in front of a pattern, or at the end of the text, are the same. -/
theorem IsGap.unique {gap gap' after after' : List Char} (h : IsGap gap after)
    (h' : IsGap gap' after') (htext : gap ++ after = gap' ++ after')
    (hp : after = [] ∨ Pattern.BeginsAt after) (hp' : after' = [] ∨ Pattern.BeginsAt after') :
    gap = gap' ∧ after = after' := by
  rcases List.append_eq_append_iff.mp htext with ⟨inside, rfl, rfl⟩ | ⟨inside, rfl, rfl⟩
  · have hinside := h'.eq_of_prefix hp
    simp [hinside]
  · have hinside := h.eq_of_prefix hp'
    simp [hinside]

/-- **A text is cut in one way only.** -/
theorem IsProper.unique {d d' : Segmentation} (hd : d.IsProper) (hd' : d'.IsProper)
    (h : d.toList = d'.toList) : d = d' := by
  induction d generalizing d' with
  | last gap =>
    cases d' with
    | last gap' => exact congrArg last h
    | next gap' p' rest' =>
      obtain ⟨hgap', hp', -⟩ := hd'
      have hafter :=
        (IsGap.unique hd hgap' (by simpa [toList] using h) (.inl rfl) (.inr ⟨p', _, hp', rfl⟩)).2
      simp [Pattern.toList] at hafter
  | next gap p rest ih =>
    obtain ⟨hgap, hp, hrest⟩ := hd
    cases d' with
    | last gap' =>
      have hafter := (hgap.unique hd' (by simpa [toList] using h) (.inr ⟨p, _, hp, rfl⟩) (.inl rfl)).2
      simp [Pattern.toList] at hafter
    | next gap' p' rest' =>
      obtain ⟨hgap', hp', hrest'⟩ := hd'
      obtain ⟨rfl, hafter⟩ := hgap.unique hgap' h (.inr ⟨p, _, hp, rfl⟩) (.inr ⟨p', _, hp', rfl⟩)
      obtain ⟨rfl, htext⟩ := hp.toList_append_inj hp' hafter
      rw [ih hrest hrest' htext]

end Segmentation

/-- **Every text has exactly one proper segmentation.** -/
theorem existsUnique_segmentation (cs : List Char) :
    ∃ d : Segmentation, (d.IsProper ∧ d.toList = cs) ∧
      ∀ d' : Segmentation, d'.IsProper → d'.toList = cs → d' = d := by
  obtain ⟨d, hd, rfl⟩ := Segmentation.exists_isProper cs
  exact ⟨d, ⟨hd, rfl⟩, fun d' hd' h => hd'.unique hd h⟩

end LaunchPlan
