import Mathlib
import LaunchPlan.Proofs.Tokenization

/-! # Rendering a template and reading it again

`Template.render` writes literal text as it is and patterns anew: one space before each
argument, and the word `env` where there is a default.  `Pattern.canonical` is the pattern as it
is written anew.

What could go wrong is at the borders.  A pattern of the text must not disappear, and no pattern
may begin in a gap and reach into a pattern that was written anew.  Whether one does depends on
the gap alone, as long as a pattern follows it (`Pattern.beginsAt_append`): the word characters
behind `$(` end at the next `$` at the latest, and the next `)` is there in any case.  So the gaps
and the canonical patterns are the proper segmentation of the rendered text, and
`parse_render` follows from its uniqueness.
-/
namespace LaunchPlan

open Text (isBlank isWordChar words)

/-! ## Words -/

namespace Text

/-- Words set off by spaces are found again. -/
theorem isWords_flatMap {ws : List (List Char)} (hws : ∀ w ∈ ws, IsWord w) :
    IsWords (ws.flatMap (' ' :: ·)) ws := by
  induction ws with
  | nil => exact .none (List.forall_mem_nil _)
  | cons w ws ih =>
    obtain ⟨hw, hws⟩ := List.forall_mem_cons.mp hws
    have hrest : ∀ c ∈ (ws.flatMap (' ' :: ·)).head?, isBlank c = true := by
      cases ws with
      | nil => exact nofun
      | cons v ws => rintro c ⟨⟩; decide
    exact (IsWords.front hw hrest (ih hws)).blank (by decide)

end Text

/-! ## Patterns written anew -/

namespace Pattern

/-- A pattern as it is written anew. -/
def canonical (p : Pattern) : Pattern where
  kind := if String.ofList p.kind = "optenv" ∧ p.args.length = 2 then "env".toList else p.kind
  body := (words p.body).flatMap (' ' :: ·)

@[simp] theorem args_canonical (p : Pattern) : p.canonical.args = p.args := by
  have hwords := Text.isWords_flatMap (Text.isWords_words p.body).isWord_of_mem
  rw [args, canonical, hwords.words_eq, args]

theorem kind_canonical (p : Pattern) : String.ofList p.canonical.kind =
    if String.ofList p.kind = "optenv" ∧ p.args.length = 2 then "env"
    else String.ofList p.kind := by
  rw [canonical]
  split <;> simp

theorem body_canonical (p : Pattern) :
    p.canonical.body = p.args.flatMap fun a => ' ' :: a.toList := by
  simp [canonical, args, List.flatMap_map]

/-- **Written anew, a pattern stands for the same.** -/
theorem Denotes.canonical {p : Pattern} {part : Substitution} (h : p.Denotes part) :
    p.canonical.Denotes part := by
  cases h with
  | var hk ha => exact .var (by simp [kind_canonical, hk]) (by simp [ha])
  | env hk ha => exact .env (by simp [kind_canonical, hk]) (by simp [ha])
  | optenv hk ha => exact .optenv (by simp [kind_canonical, hk, ha]) (by simp [ha])
  | withDefault hk ha =>
    refine .withDefault (.inl ?_) (by simp [ha])
    rcases hk with hk | hk <;> simp [kind_canonical, hk, ha]

/-- **A unit is rendered as the pattern that it was read from, written anew.** -/
theorem Denotes.toList_render {p : Pattern} {part : Substitution} (h : p.Denotes part) :
    part.render.toList = p.canonical.toList := by
  rw [toList, body_canonical, ← String.toList_ofList (l := p.canonical.kind), kind_canonical]
  cases h with
  | var hk ha => simp [hk, ha, Substitution.render, Template.render, Template.renderDefault]
  | env hk ha => simp [hk, ha, Substitution.render, Template.render, Template.renderDefault]
  | optenv hk ha => simp [hk, ha, Substitution.render, Template.render]
  | withDefault hk ha =>
    rcases hk with hk | hk <;>
      simp [hk, ha, Substitution.render, Template.render, Template.renderDefault]

theorem Denotes.args_ne_nil {p : Pattern} {part : Substitution} (h : p.Denotes part) :
    p.args ≠ [] := by
  cases h <;> simp [*]

theorem WellFormed.canonical {p : Pattern} (hp : p.WellFormed) {part : Substitution}
    (h : p.Denotes part) : p.canonical.WellFormed := by
  have hkind : p.canonical.kind = "env".toList ∨ p.canonical.kind = p.kind := by
    rw [Pattern.canonical]
    split
    · exact .inl rfl
    · exact .inr rfl
  refine ⟨?_, ?_, ?_⟩
  · rcases hkind with hk | hk <;> rw [hk]
    · decide
    · exact hp.kind_ne_nil
  · rcases hkind with hk | hk <;> rw [hk]
    · have hletters : ∀ c ∈ "env".toList, c.isAlphanum = true := by simp
      exact fun c hc => Text.isWordChar_of_isAlphanum (hletters c hc)
    · exact hp.kind_isWordChar
  · -- the arguments are words of the body, so none has a `)`
    have hend : ∀ w ∈ words p.body, ')' ∉ w := by
      intro w hw hc
      exact hp.not_mem_body ((Text.isWords_words p.body).mem_of_mem w hw _ hc)
    have hne : words p.body ≠ [] := by
      intro hnil
      exact h.args_ne_nil (by rw [args, hnil, List.map_nil])
    rw [Pattern.canonical]
    cases hwords : words p.body with
    | nil => exact absurd hwords hne
    | cons w ws =>
      refine .inr ⟨' ', w ++ ws.flatMap (' ' :: ·), rfl, by decide, ?_, ?_⟩
      · have hw := (Text.words_eq_iff.mp hwords).isWord_of_mem w List.mem_cons_self
        simp [hw.1]
      · rw [hwords] at hend
        simpa using hend

/-! ## Where a pattern begins -/

theorem append_eq_append_cons {l r inside tail : List Char} {c : Char} (hc : c ∉ l)
    (h : l ++ r = inside ++ c :: tail) : ∃ m, inside = l ++ m ∧ r = m ++ c :: tail := by
  rcases List.append_eq_append_iff.mp h with ⟨m, rfl, hr⟩ | ⟨m, rfl, hr⟩
  · exact ⟨m, rfl, hr⟩
  · cases m with
    | nil => exact ⟨[], by simp, hr.symm⟩
    | cons d m =>
      rw [List.cons_append, List.cons.injEq] at hr
      exact absurd (by simp [hr.1]) hc

/-- **A `$` inside a pattern belongs to its body**, and there is a blank in front of it. -/
theorem WellFormed.prefix_of_dollar {p : Pattern} (hp : p.WellFormed) {inside tail : List Char}
    (hne : inside ≠ []) (h : p.toList = inside ++ '$' :: tail) :
    ∃ blank more, inside = '$' :: '(' :: (p.kind ++ blank :: more) ∧ isBlank blank = true ∧
      ')' ∉ more := by
  have hkind : '$' ∉ '(' :: p.kind := by
    have hword : isWordChar '$' = false := by decide +kernel
    intro hmem
    rcases List.mem_cons.mp hmem with hc | hc
    · exact absurd hc (by decide)
    · exact absurd (hp.kind_isWordChar _ hc) (by simp [hword])
  cases inside with
  | nil => exact absurd rfl hne
  | cons c inside =>
    rw [toList, List.cons_append, List.cons.injEq, List.append_assoc, ← List.cons_append] at h
    obtain ⟨rfl, h⟩ := h
    obtain ⟨m, rfl, hm⟩ := append_eq_append_cons hkind h
    rcases hp.body with hb | ⟨blank, more, hb, hblank, -, hmore⟩
    · -- behind an empty body there is only `)`
      have : '$' ∈ p.body ++ [')'] := by simp [hm]
      simp [hb] at this
    · rw [hb] at hm
      cases m with
      | nil =>
        rw [List.nil_append, List.cons_append, List.cons.injEq] at hm
        rw [hm.1] at hblank
        exact absurd hblank (by decide)
      | cons d m =>
        rw [List.cons_append, List.cons_append, List.cons.injEq] at hm
        obtain ⟨rfl, hm⟩ := hm
        refine ⟨blank, m, rfl, hblank, fun hend => hmore ?_⟩
        have hmore : more = m ++ ('$' :: tail).dropLast := by
          rw [← List.dropLast_append_of_ne_nil (List.cons_ne_nil _ _), ← hm, List.dropLast_concat]
        rw [hmore]
        exact List.mem_append_left _ hend

/-- **Whether a pattern begins in front of a pattern** depends on the text in front of it only. -/
theorem beginsAt_append {inside x y : List Char} (hne : inside ≠ [])
    (h : BeginsAt (inside ++ '$' :: x)) (hy : ')' ∈ y) : BeginsAt (inside ++ '$' :: y) := by
  obtain ⟨p, rest, hp, htext⟩ := h
  rcases List.append_eq_append_iff.mp htext with ⟨m, hm, hx⟩ | ⟨m, rfl, -⟩
  · cases m with
    | nil => exact ⟨p, '$' :: y, hp, by rw [hm, List.append_nil]⟩
    | cons c m =>
      rw [List.cons_append, List.cons.injEq] at hx
      obtain ⟨rfl, -⟩ := hx
      obtain ⟨blank, more, rfl, hblank, hmore⟩ := hp.prefix_of_dollar hne hm
      obtain ⟨y, after, rfl, hend⟩ := List.eq_append_cons_of_mem hy
      refine ⟨⟨p.kind, blank :: (more ++ '$' :: y)⟩, after, ⟨hp.kind_ne_nil, hp.kind_isWordChar,
        .inr ⟨blank, _, rfl, hblank, by simp, by simp [hmore, hend]⟩⟩, ?_⟩
      simp [toList]
  · exact ⟨p, m ++ '$' :: y, hp, List.append_assoc _ _ _⟩

end Pattern

/-! ## A whole text -/

theorem Template.toList_render_append (t u : Template) :
    (render (t ++ u)).toList = (render t).toList ++ (render u).toList := by
  induction t with
  | nil => simp [render]
  | cons part t ih => simp [render, ih]

namespace Segmentation

/-- A gap in front of a pattern is a gap in front of any other pattern. -/
theorem IsGap.of_pattern {gap rest rest' : List Char} {p q : Pattern}
    (h : IsGap gap (p.toList ++ rest)) : IsGap gap (q.toList ++ rest') := by
  intro before inside hgap hne hbegins
  refine h before inside hgap hne ?_
  exact Pattern.beginsAt_append hne hbegins (by simp)

/-- The segmentation with its patterns written anew. -/
def canonical : Segmentation → Segmentation
  | last gap => last gap
  | next gap p rest => next gap p.canonical rest.canonical

theorem IsProper.canonical {d : Segmentation} {t : Template} (h : d.Reads t) (hd : d.IsProper) :
    d.canonical.IsProper := by
  induction h with
  | last gap => exact hd
  | next gap hpart _ ih =>
    obtain ⟨hgap, hp, hrest⟩ := hd
    exact ⟨hgap.of_pattern, hp.canonical hpart, ih hrest⟩

theorem Reads.canonical {d : Segmentation} {t : Template} (h : d.Reads t) :
    d.canonical.Reads t := by
  induction h with
  | last gap => exact .last gap
  | next gap hpart _ ih => exact .next gap hpart.canonical ih

theorem toList_render_literal (gap : List Char) : (Template.render (literal gap)).toList = gap := by
  cases gap <;> simp [literal, Template.render, Substitution.render]

/-- **A template is rendered as the text that it was read from, its patterns written anew.** -/
theorem Reads.toList_render {d : Segmentation} {t : Template} (h : d.Reads t) :
    (Template.render t).toList = d.canonical.toList := by
  induction h with
  | last gap => exact toList_render_literal gap
  | next gap hpart _ ih =>
    rw [Template.toList_render_append, toList_render_literal, Template.render, String.toList_append,
      ih, hpart.toList_render]
    rfl

end Segmentation

/-- A text with its patterns written anew. -/
def Template.normalForm (s : String) : Except TemplateError String :=
  Template.render <$> Template.parse s

theorem parse_render_of_parse {s : String} {t : Template} (h : Template.parse s = .ok t) :
    Template.parse (Template.render t) = .ok t := by
  obtain ⟨d, ⟨hd, hs⟩, -⟩ := existsUnique_segmentation s.toList
  rw [Segmentation.parse_eq_read hd hs, Segmentation.readFrom_eq_ok_iff] at h
  rw [Segmentation.parse_eq_read (hd.canonical h) h.toList_render.symm,
    Segmentation.readFrom_eq_ok_iff]
  exact h.canonical

/-- **Rendering and reading agree.**  What was read from a text is read again from its
rendering, and so a rendering is its own normal form. -/
theorem parse_render :
    (∀ s t, Template.parse s = .ok t → Template.parse (Template.render t) = .ok t) ∧
      ∀ s n, Template.normalForm s = .ok n → Template.normalForm n = .ok n := by
  refine ⟨fun s t h => parse_render_of_parse h, fun s n h => ?_⟩
  obtain ⟨t, ht, rfl⟩ := map_eq_ok_iff.mp h
  exact map_eq_ok_iff.mpr ⟨t, parse_render_of_parse ht, rfl⟩

/-- A text with unclosed patterns, a dollar sign in front of a pattern, spare blanks, and a name
that looks like the beginning of a pattern. -/
def straddlingText : String := "$(x$$(optenv \tA  b)$(y$(var  $(z)"

/-- The template of `straddlingText`. -/
def straddling : Template :=
  [.text "$(x$", .variable [.text "A"] (some [.text "b"]), .text "$(y",
    .configuration [.text "$(z"] none]

theorem parse_render_straddling :
    Template.parse straddlingText = .ok straddling ∧
      Template.parse (Template.render straddling) = .ok straddling ∧
      Template.normalForm straddlingText = .ok "$(x$$(env A b)$(y$(var $(z)" ∧
      Template.normalForm "$(x$$(env A b)$(y$(var $(z)" = .ok "$(x$$(env A b)$(y$(var $(z)" := by
  have hparse : Template.parse straddlingText = .ok straddling := by cbv
  have hnormal : Template.normalForm straddlingText = .ok "$(x$$(env A b)$(y$(var $(z)" := by cbv
  exact ⟨hparse, parse_render.1 _ _ hparse, hnormal, parse_render.2 _ _ hnormal⟩

end LaunchPlan
