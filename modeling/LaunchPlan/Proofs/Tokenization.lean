import Mathlib.Data.List.Chain
import LaunchPlan.Proofs.Answer
import LaunchPlan.Proofs.Segmentation

/-! # What the reader of templates makes of a text

A text is read by its proper segmentation.  Each pattern stands for a unit
(`Pattern.Denotes`) or is faulty (`Pattern.Faulty`).  The first faulty pattern is the error;
without one, the template has a literal unit for each gap that is not empty, and the units of
the patterns between them (`Segmentation.Reads`).

`Template.parseFrom` meets the text character by character and carries the gap before it;
`parse_eq_read` relates it to the segmentation.  `parse_tokenization` gathers what follows.
-/
namespace LaunchPlan

/-! ## One pattern -/

namespace Pattern

/-- The arguments of a pattern are the words of its body. -/
theorem args_eq_iff {p : Pattern} {ws : List (List Char)} :
    p.args = ws.map String.ofList ↔ Text.IsWords p.body ws := by
  rw [args, List.map_inj_right fun _ _ h => String.ofList_inj.mp h, Text.words_eq_iff]

/-- **What a pattern stands for**, by its kind and its arguments. -/
inductive Denotes (p : Pattern) : Substitution → Prop
  | var {name} : String.ofList p.kind = "var" → p.args = [name] →
      Denotes p (.configuration [.text name] none)
  | env {name} : String.ofList p.kind = "env" → p.args = [name] →
      Denotes p (.variable [.text name] none)
  | optenv {name} : String.ofList p.kind = "optenv" → p.args = [name] →
      Denotes p (.variable [.text name] (some []))
  | withDefault {name default} : String.ofList p.kind = "env" ∨ String.ofList p.kind = "optenv" →
      p.args = [name, default] → Denotes p (.variable [.text name] (some [.text default]))

/-- **What is wrong with a pattern**: its kind is unknown, or it has too few or too many
arguments for it. -/
inductive Faulty (p : Pattern) : TemplateError → Prop
  | unknown : String.ofList p.kind ∉ ["var", "env", "optenv"] →
      Faulty p (.unknownKind (String.ofList p.kind))
  | var : String.ofList p.kind = "var" → p.args.length ≠ 1 →
      Faulty p (.arity (String.ofList p.toList) .one)
  | env : String.ofList p.kind = "env" ∨ String.ofList p.kind = "optenv" →
      p.args.length ≠ 1 → p.args.length ≠ 2 →
      Faulty p (.arity (String.ofList p.toList) .oneOrTwo)

/-- The pattern stands for something. -/
def IsTyped (p : Pattern) : Prop := ∃ part, p.Denotes part

theorem toSubstitution_eq_ok_iff {p : Pattern} {part : Substitution} :
    p.toSubstitution = .ok part ↔ p.Denotes part := by
  constructor
  · intro h
    unfold toSubstitution at h
    split at h <;> cases h
    · exact .var ‹_› ‹_›
    · exact .env ‹_› ‹_›
    · exact .withDefault (.inl ‹_›) ‹_›
    · exact .optenv ‹_› ‹_›
    · exact .withDefault (.inr ‹_›) ‹_›
  · intro h
    unfold toSubstitution
    cases h with
    | var hk ha => simp [hk, ha, Template.literal]
    | env hk ha => simp [hk, ha, Template.literal]
    | optenv hk ha => simp [hk, ha, Template.literal]
    | withDefault hk ha => rcases hk with hk | hk <;> simp [hk, ha, Template.literal]

theorem length_args_ne_one {p : Pattern} (h : ∀ name, p.args = [name] → False) :
    p.args.length ≠ 1 := by
  intro hlength
  obtain ⟨name, hname⟩ := List.length_eq_one_iff.mp hlength
  exact h name hname

theorem length_args_ne_two {p : Pattern} (h : ∀ name default, p.args = [name, default] → False) :
    p.args.length ≠ 2 := by
  intro hlength
  match hargs : p.args, hlength with
  | [name, default], _ => exact h name default hargs

theorem toSubstitution_eq_error_iff {p : Pattern} {err : TemplateError} :
    p.toSubstitution = .error err ↔ p.Faulty err := by
  constructor
  · intro h
    unfold toSubstitution at h
    split at h <;> cases h
    · rename_i hk hone
      exact .var hk (length_args_ne_one hone)
    · rename_i hk hone htwo
      exact .env (.inl hk) (length_args_ne_one hone) (length_args_ne_two htwo)
    · rename_i hk hone htwo
      exact .env (.inr hk) (length_args_ne_one hone) (length_args_ne_two htwo)
    · rename_i hvar henv hoptenv _ _ _ _ _
      refine .unknown ?_
      simp only [List.mem_cons, List.not_mem_nil, or_false, not_or]
      exact ⟨hvar, henv, hoptenv⟩
  · intro h
    unfold toSubstitution
    cases h with
    | unknown hk => split <;> simp_all
    | var hk hone => split <;> simp_all
    | env hk hone htwo => split <;> simp_all

/-- A pattern is faulty exactly if it stands for nothing. -/
theorem exists_faulty_iff {p : Pattern} : (∃ err, p.Faulty err) ↔ ¬ p.IsTyped := by
  simp only [IsTyped, ← toSubstitution_eq_ok_iff, ← toSubstitution_eq_error_iff]
  cases p.toSubstitution <;> simp

end Pattern

/-- The text of a literal unit. -/
def Substitution.literal? : Substitution → Option String
  | .text content => some content
  | _ => none

/-- Of two units next to each other, at most one is literal. -/
def Template.Separated (t : Template) : Prop :=
  t.IsChain fun a b => a.literal? = none ∨ b.literal? = none

/-- A pattern never stands for literal text. -/
theorem Pattern.Denotes.literal?_eq_none {p : Pattern} {part : Substitution}
    (h : p.Denotes part) : part.literal? = none := by
  cases h <;> rfl

/-! ## A whole text -/

namespace Segmentation

/-- The literal unit for a gap; an empty gap has none. -/
def literal (gap : List Char) : Template :=
  if gap = [] then [] else [.text (String.ofList gap)]

theorem filterMap_literal (gap : List Char) : (literal gap).filterMap Substitution.literal? =
    ([gap].filter fun gap => !gap.isEmpty).map String.ofList := by
  cases gap <;> rfl

/-- **The template that a segmentation stands for**: the gaps that are not empty as literal
units, word for word, and what the patterns stand for, in the order of the text. -/
inductive Reads : Segmentation → Template → Prop
  | last (gap) : Reads (.last gap) (literal gap)
  | next (gap) {p part rest parts} : p.Denotes part → Reads rest parts →
      Reads (.next gap p rest) (literal gap ++ part :: parts)

/-- **The first faulty pattern of a segmentation**, and what is wrong with it. -/
def FirstFault (d : Segmentation) (err : TemplateError) : Prop :=
  ∃ before p after, d.patterns = before ++ p :: after ∧ (∀ q ∈ before, q.IsTyped) ∧ p.Faulty err

/-- Reads a segmentation from left to right, with `gap` as the text in front of it. -/
def readFrom (gap : List Char) : Segmentation → Except TemplateError Template
  | last gap' => .ok (literal (gap ++ gap'))
  | next gap' p rest => do
    let part ← p.toSubstitution
    let parts ← rest.readFrom []
    .ok (literal (gap ++ gap') ++ part :: parts)

theorem ofGap_eq_literal (gap : List Char) : Template.ofGap gap = literal gap.reverse := by
  cases gap with
  | nil => rfl
  | cons c gap => simp [Template.ofGap, literal]

/-- The reader at a pattern. -/
theorem parseFrom_of_at? {cs rest : List Char} {p : Pattern}
    (h : Pattern.at? cs = some (p, rest)) (gap : List Char) :
    Template.parseFrom gap cs = (do
      let part ← p.toSubstitution
      let parts ← Template.parseFrom [] rest
      .ok (Template.ofGap gap ++ part :: parts)) := by
  cases cs with
  | nil => cases h
  | cons c tail =>
    rw [Template.parseFrom]
    split <;> simp_all

/-- The reader at a character where no pattern begins. -/
theorem parseFrom_of_none {c : Char} {tail : List Char} (h : Pattern.at? (c :: tail) = none)
    (gap : List Char) :
    Template.parseFrom gap (c :: tail) = Template.parseFrom (c :: gap) tail := by
  rw [Template.parseFrom]
  split <;> simp_all

/-- The reader goes through a gap and keeps it. -/
theorem parseFrom_append_of_isGap {gap' after : List Char} (h : IsGap gap' after)
    (gap : List Char) :
    Template.parseFrom gap (gap' ++ after) = Template.parseFrom (gap'.reverse ++ gap) after := by
  induction gap' generalizing gap with
  | nil => rfl
  | cons c rest ih =>
    obtain ⟨hhead, hrest⟩ := isGap_cons_iff.mp h
    rw [List.cons_append, parseFrom_of_none (Pattern.at?_eq_none_iff.mpr hhead), ih hrest,
      List.reverse_cons, List.append_assoc]
    rfl

/-- **The reader follows the segmentation**, whatever gap it carries. -/
theorem parseFrom_toList {d : Segmentation} (hd : d.IsProper) (gap : List Char) :
    Template.parseFrom gap d.toList = d.readFrom gap.reverse := by
  induction d generalizing gap with
  | last gap' =>
    have hgap := parseFrom_append_of_isGap hd gap
    rw [List.append_nil] at hgap
    rw [toList, hgap, Template.parseFrom, ofGap_eq_literal, readFrom]
    simp
  | next gap' p rest ih =>
    obtain ⟨hgap, hp, hrest⟩ := hd
    rw [toList, parseFrom_append_of_isGap hgap,
      parseFrom_of_at? (Pattern.at?_eq_some_iff.mpr ⟨hp, rfl⟩), ih hrest, ofGap_eq_literal,
      readFrom]
    simp

theorem parse_eq_read {s : String} {d : Segmentation} (hd : d.IsProper)
    (hs : d.toList = s.toList) : Template.parse s = d.readFrom [] := by
  rw [Template.parse, ← hs]
  exact parseFrom_toList hd []

theorem readFrom_eq_ok_iff {d : Segmentation} {t : Template} :
    d.readFrom [] = .ok t ↔ d.Reads t := by
  induction d generalizing t with
  | last gap =>
    constructor
    · intro h
      cases h
      exact .last gap
    · intro h
      cases h
      rfl
  | next gap p rest ih =>
    constructor
    · intro h
      obtain ⟨part, hpart, h⟩ := bind_eq_ok_iff.mp h
      obtain ⟨parts, hparts, h⟩ := bind_eq_ok_iff.mp h
      cases h
      exact .next gap (Pattern.toSubstitution_eq_ok_iff.mp hpart) (ih.mp hparts)
    · intro h
      cases h with
      | next _ hpart hparts =>
        exact bind_eq_ok_iff.mpr ⟨_, Pattern.toSubstitution_eq_ok_iff.mpr hpart,
          bind_eq_ok_iff.mpr ⟨_, ih.mpr hparts, rfl⟩⟩

theorem firstFault_next_iff {gap : List Char} {p : Pattern} {rest : Segmentation}
    {err : TemplateError} :
    (next gap p rest).FirstFault err ↔ p.Faulty err ∨ p.IsTyped ∧ rest.FirstFault err := by
  constructor
  · rintro ⟨before, q, after, hpatterns, hbefore, hq⟩
    cases before with
    | nil =>
      rw [patterns, List.nil_append, List.cons.injEq] at hpatterns
      exact .inl (hpatterns.1 ▸ hq)
    | cons r before =>
      rw [patterns, List.cons_append, List.cons.injEq] at hpatterns
      obtain ⟨hr, hbefore⟩ := List.forall_mem_cons.mp hbefore
      exact .inr ⟨hpatterns.1 ▸ hr, before, q, after, hpatterns.2, hbefore, hq⟩
  · rintro (hp | ⟨hp, before, q, after, hpatterns, hbefore, hq⟩)
    · exact ⟨[], p, rest.patterns, rfl, by simp, hp⟩
    · exact ⟨p :: before, q, after, by rw [patterns, hpatterns, List.cons_append],
        List.forall_mem_cons.mpr ⟨hp, hbefore⟩, hq⟩

theorem readFrom_eq_error_iff {d : Segmentation} {err : TemplateError} :
    d.readFrom [] = .error err ↔ d.FirstFault err := by
  induction d generalizing err with
  | last gap =>
    constructor
    · intro h
      cases h
    · rintro ⟨before, p, after, hpatterns, -⟩
      simp [patterns] at hpatterns
  | next gap p rest ih =>
    rw [readFrom, bind_eq_error_iff, firstFault_next_iff]
    refine or_congr Pattern.toSubstitution_eq_error_iff ?_
    constructor
    · rintro ⟨part, hpart, h⟩
      refine ⟨⟨part, Pattern.toSubstitution_eq_ok_iff.mp hpart⟩, ?_⟩
      rcases bind_eq_error_iff.mp h with h | ⟨parts, -, h⟩
      · exact ih.mp h
      · cases h
    · rintro ⟨⟨part, hpart⟩, h⟩
      exact ⟨part, Pattern.toSubstitution_eq_ok_iff.mpr hpart,
        bind_eq_error_iff.mpr (.inl (ih.mpr h))⟩

/-- A text fails to be read exactly if one of its patterns is faulty. -/
theorem exists_firstFault_iff {d : Segmentation} :
    (∃ err, d.FirstFault err) ↔ ∃ p ∈ d.patterns, ¬ p.IsTyped := by
  induction d with
  | last gap => simp [FirstFault, patterns]
  | next gap p rest ih =>
    simp only [firstFault_next_iff, exists_or, patterns, List.exists_mem_cons_iff, exists_and_left,
      ih, Pattern.exists_faulty_iff]
    constructor
    · rintro (hp | ⟨-, hrest⟩)
      · exact .inl hp
      · exact .inr hrest
    · intro h
      by_cases hp : p.IsTyped
      · exact .inr ⟨hp, h.resolve_left fun hn => hn hp⟩
      · exact .inl hp

/-! ## What the units of a template tell -/

/-- The literal units of a template are the gaps that are not empty. -/
theorem Reads.filterMap_literal? {d : Segmentation} {t : Template} (h : d.Reads t) :
    t.filterMap Substitution.literal? =
      (d.gaps.filter fun gap => !gap.isEmpty).map String.ofList := by
  induction h with
  | last gap => exact filterMap_literal gap
  | next gap hpart _ ih =>
    rw [List.filterMap_append, List.filterMap_cons_none hpart.literal?_eq_none, ih,
      filterMap_literal, gaps, ← List.map_append, ← List.filter_append, List.singleton_append]

theorem separated_literal_append {t : Template} (h : t.Separated)
    (hhead : ∀ u ∈ t.head?, u.literal? = none) (gap : List Char) :
    Template.Separated (literal gap ++ t) := by
  cases gap with
  | nil => exact h
  | cons c gap => exact List.IsChain.cons h fun u hu => .inr (hhead u hu)

/-- Between two literal units there is one that stands for a pattern. -/
theorem Reads.separated {d : Segmentation} {t : Template} (h : d.Reads t) : t.Separated := by
  induction h with
  | last gap =>
    have hlast := separated_literal_append (t := []) .nil (by simp) gap
    rwa [List.append_nil] at hlast
  | @next gap p part rest parts hpart _ ih =>
    have hpart := hpart.literal?_eq_none
    refine separated_literal_append (List.IsChain.cons ih fun _ _ => .inl hpart) ?_ gap
    simpa using hpart

/-- No literal unit is empty. -/
theorem Reads.content_ne {d : Segmentation} {t : Template} (h : d.Reads t) {content : String}
    (hc : .text content ∈ t) : content ≠ "" := by
  have hmem : content ∈ t.filterMap Substitution.literal? := List.mem_filterMap.mpr ⟨_, hc, rfl⟩
  rw [h.filterMap_literal?, List.mem_map] at hmem
  obtain ⟨gap, hgap, rfl⟩ := hmem
  have hne := (List.mem_filter.mp hgap).2
  rintro hempty
  simp_all

/-- Literal text resolves to itself. -/
theorem resolve_literal (gap : List Char) (b : Bindings) :
    Template.resolve b (literal gap) = .ok (String.ofList gap) := by
  cases gap with
  | nil => rfl
  | cons c gap =>
    simp [literal, Template.resolve, Substitution.resolve, bind, Except.bind]

end Segmentation

/-- **What the reader does with a text** whose segmentation is `d`.  The arguments of a pattern, by
which it is typed or faulty, are the words of its body. -/
structure Tokenization (s : String) (d : Segmentation) : Prop where
  isProper : d.IsProper
  toList_eq : d.toList = s.toList
  unique : ∀ d' : Segmentation, d'.IsProper → d'.toList = s.toList → d' = d
  args_iff : ∀ p ∈ d.patterns, ∀ ws, p.args = ws.map String.ofList ↔ Text.IsWords p.body ws
  error_iff : ∀ err, Template.parse s = .error err ↔ d.FirstFault err
  fails_iff : (∃ err, Template.parse s = .error err) ↔ ∃ p ∈ d.patterns, ¬ p.IsTyped
  ok_iff : ∀ t, Template.parse s = .ok t ↔ d.Reads t
  literals : ∀ t, Template.parse s = .ok t → t.filterMap Substitution.literal? =
    (d.gaps.filter fun gap => !gap.isEmpty).map String.ofList
  content_ne : ∀ t, Template.parse s = .ok t → ∀ content, .text content ∈ t → content ≠ ""
  separated : ∀ t, Template.parse s = .ok t → Template.Separated t
  plain : (∀ before inside, s.toList = before ++ inside → ¬ Pattern.BeginsAt inside) →
    ∃ t, Template.parse s = .ok t ∧ ∀ b, Template.resolve b t = .ok s

/-- **Every text has one segmentation, and the reader goes by it.** -/
theorem parse_tokenization (s : String) : ∃ d, Tokenization s d := by
  obtain ⟨d, ⟨hd, hs⟩, hunique⟩ := existsUnique_segmentation s.toList
  have hparse := Segmentation.parse_eq_read hd hs
  have hreads : ∀ t, Template.parse s = .ok t ↔ d.Reads t := by
    intro t
    rw [hparse]
    exact Segmentation.readFrom_eq_ok_iff
  have herror : ∀ err, Template.parse s = .error err ↔ d.FirstFault err := by
    intro err
    rw [hparse]
    exact Segmentation.readFrom_eq_error_iff
  refine ⟨d, hd, hs, hunique, fun _ _ _ => Pattern.args_eq_iff, herror, ?_, hreads, ?_, ?_, ?_, ?_⟩
  · rw [← Segmentation.exists_firstFault_iff]
    exact exists_congr herror
  · exact fun t ht => ((hreads t).mp ht).filterMap_literal?
  · exact fun t ht _ hc => ((hreads t).mp ht).content_ne hc
  · exact fun t ht => ((hreads t).mp ht).separated
  · intro hplain
    have hgap : Segmentation.IsGap s.toList [] := by
      intro before inside htext _
      rw [List.append_nil]
      exact hplain before inside htext
    obtain rfl := hunique (.last s.toList) hgap rfl
    refine ⟨_, (hreads _).mpr (.last s.toList), fun b => ?_⟩
    rw [Segmentation.resolve_literal, String.ofList_toList]

end LaunchPlan
