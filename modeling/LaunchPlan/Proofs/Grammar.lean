import Mathlib.Data.List.Forall2
import LaunchPlan.Description.Parser
import LaunchPlan.Proofs.Answer

/-! # Which entities are descriptions

The reader of descriptions checks an entity while it reads it: the tag, the attributes of the
kind of action, and the children of groups.  This module states the grammar that it accepts, and
what it makes of an entity of the grammar.

* `Entity.IsDescription` is the grammar: a root `launch` whose children are actions
  (`Entity.IsAction`).  Every kind of action has its own attributes (`Entity.HasAttributes`), and
  all may have a condition (`Entity.HasCondition`).
* `Entity.Denotes` relates an entity to the action that it stands for, one rule for each kind.

The getters are opened once each: `Entity.template_eq_ok_iff` and its like say when a getter gives
an answer.  From these `toAction_eq_ok_iff` says that reading finds exactly the action that an
entity denotes, by induction along the tree, and `toDescription_grammar` says that the reader
accepts exactly the grammar.
-/
namespace LaunchPlan

/-! ## The built-in tags -/

namespace ActionKind

/-- A built-in tag stands for one kind. -/
theorem ofTag?_eq_some_iff {tag : String} {kind : ActionKind} :
    ofTag? tag = some kind ↔ tag = kind.tag := by
  constructor
  · intro h
    rw [ofTag?] at h
    have htag := List.find?_some h
    exact (beq_iff_eq.mp htag).symm
  · rintro rfl
    cases kind <;> rfl

end ActionKind

namespace Registry

theorem entries_builtin : builtin.registrations.entries =
    ActionKind.all.map fun kind => (kind.tag, ⟨kind.toClass, kind⟩) := rfl

/-- The registry holds each kind under its tag, and nothing else. -/
theorem get?_builtin (tag : String) : builtin.registrations.get? tag =
    (ActionKind.ofTag? tag).map fun kind => ⟨kind.toClass, kind⟩ := by
  rw [OrderedMap.get?, entries_builtin]
  cases htag : ActionKind.ofTag? tag with
  | some kind =>
    rw [ActionKind.ofTag?_eq_some_iff] at htag
    rw [htag]
    cases kind <;> rfl
  | none =>
    rw [ActionKind.ofTag?, List.find?_eq_none] at htag
    refine List.lookup_eq_none_iff.mpr fun entry hentry => ?_
    obtain ⟨kind, hkind, rfl⟩ := List.mem_map.mp hentry
    exact bne_iff_ne.mpr fun h => htag kind hkind (beq_iff_eq.mpr h.symm)

section Build
variable {α : Type} (make : ActionKind → Except ParseError α)

theorem build_builtin (tag : String) : builtin.build make tag =
    match ActionKind.ofTag? tag with
    | some kind => make kind
    | none => .error (.unknownTag tag) := by
  rw [build, get?_builtin]
  cases ActionKind.ofTag? tag <;> rfl

theorem build_builtin_eq_ok_iff {tag : String} {a : α} :
    builtin.build make tag = .ok a ↔ ∃ kind : ActionKind, tag = kind.tag ∧ make kind = .ok a := by
  simp only [← ActionKind.ofTag?_eq_some_iff]
  rw [build_builtin]
  cases ActionKind.ofTag? tag <;> simp

end Build

theorem classOf?_builtin (tag : String) :
    builtin.classOf? tag = (ActionKind.ofTag? tag).map ActionKind.toClass := by
  rw [classOf?, get?_builtin, Option.map_map]
  rfl

end Registry

namespace Entity

/-! ## What an attribute can be -/

/-- The entity does not have the attribute. -/
def Lacks (e : Entity) (name : String) : Prop := e.attr? name = .ok none

/-- The attribute is this text. -/
def HasText (e : Entity) (name content : String) : Prop :=
  e.attr? name = .ok (some (.text content))

/-- The attribute is this list of entities. -/
def HasEntities (e : Entity) (name : String) (items : List Entity) : Prop :=
  e.attr? name = .ok (some (.entities items))

/-- The attribute is a text that stands for a template. -/
def Gives (e : Entity) (name : String) (t : Template) : Prop :=
  ∃ content, e.HasText name content ∧ Template.parse content = .ok t

/-- The attribute is absent, or a text that stands for a template. -/
def GivesIfAny (e : Entity) (name : String) : Option Template → Prop
  | none => e.Lacks name
  | some t => e.Gives name t

/-- The attribute is a text that stands for a truth value: without the blanks around it and in
lower case it is `true` or `false`. -/
def GivesTruth (e : Entity) (name : String) (b : Bool) : Prop :=
  ∃ content, e.HasText name content ∧
    (Text.trim content.toList).map Char.toLower = (if b then "true" else "false").toList

/-! ## What the getters answer -/

section Getters
variable {e : Entity} {name : String}

theorem text_eq_ok_iff {content : String} :
    e.text name = .ok content ↔ e.HasText name content := by
  unfold text attr HasText
  cases e.attr? name with
  | error err => simp [bind, Except.bind]
  | ok a =>
    cases a with
    | none => simp [bind, Except.bind]
    | some a => cases a <;> simp [bind, Except.bind, asText]

theorem text?_eq_ok_iff {content : Option String} :
    e.text? name = .ok content ↔ e.attr? name = .ok (content.map .text) := by
  unfold text?
  cases e.attr? name with
  | error err => simp [bind, Except.bind]
  | ok a =>
    cases a with
    | none => cases content <;> simp [bind, Except.bind]
    | some a =>
      cases a <;> cases content <;> simp [bind, Except.bind, asText, Functor.map, Except.map]

theorem entities?_eq_ok_iff {items : Option (List Entity)} :
    e.entities? name = .ok items ↔ e.attr? name = .ok (items.map .entities) := by
  unfold entities?
  cases e.attr? name with
  | error err => simp [bind, Except.bind]
  | ok a =>
    cases a with
    | none => cases items <;> simp [bind, Except.bind]
    | some a =>
      cases a <;> cases items <;> simp [bind, Except.bind, asEntities, Functor.map, Except.map]

theorem readTemplate_eq_ok_iff {input : String} {t : Template} :
    readTemplate input = .ok t ↔ Template.parse input = .ok t := by
  unfold readTemplate
  cases Template.parse input <;> simp [Except.mapError]

theorem template_eq_ok_iff {t : Template} : e.template name = .ok t ↔ e.Gives name t := by
  simp only [template, bind_eq_ok_iff, text_eq_ok_iff, readTemplate_eq_ok_iff, Gives]

theorem template?_eq_ok_iff {t : Option Template} :
    e.template? name = .ok t ↔ e.GivesIfAny name t := by
  simp only [template?, bind_eq_ok_iff, text?_eq_ok_iff]
  constructor
  · rintro ⟨content, hattr, h⟩
    cases content with
    | none =>
      cases h
      exact hattr
    | some content =>
      obtain ⟨t, ht, rfl⟩ := map_eq_ok_iff.mp h
      exact ⟨content, hattr, readTemplate_eq_ok_iff.mp ht⟩
  · intro h
    cases t with
    | none => exact ⟨none, h, rfl⟩
    | some t =>
      obtain ⟨content, hattr, ht⟩ := h
      exact ⟨some content, hattr, map_eq_ok_iff.mpr ⟨t, readTemplate_eq_ok_iff.mpr ht, rfl⟩⟩

theorem truthOf?_eq_some_iff {content : String} {b : Bool} :
    truthOf? content = some b ↔
      (Text.trim content.toList).map Char.toLower = (if b then "true" else "false").toList := by
  unfold truthOf?
  generalize (Text.trim content.toList).map Char.toLower = word
  by_cases htrue : word = "true".toList
  · subst htrue
    cases b <;> decide
  · by_cases hfalse : word = "false".toList
    · subst hfalse
      cases b <;> decide
    · rw [if_neg htrue, if_neg hfalse]
      cases b
      · exact ⟨nofun, fun h => absurd h hfalse⟩
      · exact ⟨nofun, fun h => absurd h htrue⟩

theorem boolean?_eq_ok_iff {b : Option Bool} :
    e.boolean? name = .ok b ↔ match b with
      | none => e.Lacks name
      | some b => e.GivesTruth name b := by
  simp only [boolean?, bind_eq_ok_iff, text?_eq_ok_iff]
  constructor
  · rintro ⟨content, hattr, h⟩
    cases content with
    | none =>
      cases h
      exact hattr
    | some content =>
      cases htruth : truthOf? content with
      | none => simp [htruth] at h
      | some truth =>
        simp only [htruth, Except.ok.injEq] at h
        subst h
        exact ⟨content, hattr, truthOf?_eq_some_iff.mp htruth⟩
  · intro h
    cases b with
    | none => exact ⟨none, h, rfl⟩
    | some b =>
      obtain ⟨content, hattr, hb⟩ := h
      exact ⟨some content, hattr, by simp [truthOf?_eq_some_iff.mpr hb]⟩

end Getters

/-! ## What an entity denotes -/

/-- **The condition that an entity gives**: one of `if` and `unless` at most. -/
inductive GivesCondition (e : Entity) : Option Condition → Prop
  | always : e.Lacks "if" → e.Lacks "unless" → GivesCondition e none
  | onlyIf {t} : e.Gives "if" t → e.Lacks "unless" → GivesCondition e (some (.onlyIf t))
  | exceptIf {t} : e.Lacks "if" → e.Gives "unless" t → GivesCondition e (some (.unless t))

/-- The entity gives a name and a value. -/
def GivesEntry (e : Entity) (entry : Template × Template) : Prop :=
  e.Gives "name" entry.1 ∧ e.Gives "value" entry.2

/-- The entity has no list of entries to keep, or one that gives these entries. -/
def GivesKeep (e : Entity) : Option (List (Template × Template)) → Prop
  | none => e.Lacks "keep"
  | some entries => ∃ items, e.HasEntities "keep" items ∧ List.Forall₂ GivesEntry items entries

/-- The entity says whether it is scoped; if it does not, it is. -/
def GivesScope (e : Entity) (isScoped : Bool) : Prop :=
  (e.Lacks "scoped" ∧ isScoped = true) ∨ e.GivesTruth "scoped" isScoped

/-- **The action that an entity stands for**, one rule for each kind. -/
inductive Denotes : Entity → Action → Prop
  | setVariable {e c entry} : e.tag = ActionKind.setVariable.tag → e.GivesCondition c →
      e.GivesEntry entry → Denotes e (.setVariable c entry.1 entry.2)
  | unsetVariable {e c name} : e.tag = ActionKind.unsetVariable.tag → e.GivesCondition c →
      e.Gives "name" name → Denotes e (.unsetVariable c name)
  | setConfiguration {e c entry} : e.tag = ActionKind.setConfiguration.tag →
      e.GivesCondition c → e.GivesEntry entry → Denotes e (.setConfiguration c entry.1 entry.2)
  | declareArgument {e c name default description} : e.tag = ActionKind.declareArgument.tag →
      e.GivesCondition c → e.Gives "name" name → e.GivesIfAny "default" default →
      e.GivesIfAny "description" description →
      Denotes e (.declareArgument c name default description)
  | resetConfigurations {e c keep} : e.tag = ActionKind.resetConfigurations.tag →
      e.GivesCondition c → e.GivesKeep keep → Denotes e (.resetConfigurations c keep)
  | log {e c message} : e.tag = ActionKind.log.tag → e.GivesCondition c →
      e.Gives "message" message → Denotes e (.log c message)
  | group {e c isScoped children actions} : e.tag = ActionKind.group.tag →
      e.GivesCondition c → e.GivesScope isScoped → e.children = .ok children →
      List.Forall₂ Denotes children actions → Denotes e (.group c isScoped actions)
  | shutdown {e c reason} : e.tag = ActionKind.shutdown.tag → e.GivesCondition c →
      e.GivesIfAny "reason" reason → Denotes e (.shutdown c (reason.getD defaultReason))

/-- An action is of the class that its tag is registered for. -/
theorem Denotes.classOf? {e : Entity} {a : Action} (h : e.Denotes a) :
    Registry.builtin.classOf? e.tag = some a.toClass := by
  cases h with
  | setVariable htag | unsetVariable htag | setConfiguration htag | declareArgument htag
  | resetConfigurations htag | log htag | group htag | shutdown htag =>
    rw [Registry.classOf?_builtin, ActionKind.ofTag?_eq_some_iff.mpr htag]
    rfl

/-! ## Reading finds what an entity denotes -/

theorem condition?_eq_ok_iff {e : Entity} {c : Option Condition} :
    e.condition? = .ok c ↔ e.GivesCondition c := by
  simp only [condition?, bind_eq_ok_iff, text?_eq_ok_iff]
  constructor
  · rintro ⟨input, hif, input', hunless, h⟩
    cases input with
    | none =>
      cases input' with
      | none =>
        cases h
        exact .always hif hunless
      | some input =>
        obtain ⟨t, ht, rfl⟩ := map_eq_ok_iff.mp h
        exact .exceptIf hif ⟨input, hunless, readTemplate_eq_ok_iff.mp ht⟩
    | some input =>
      cases input' with
      | none =>
        obtain ⟨t, ht, rfl⟩ := map_eq_ok_iff.mp h
        exact .onlyIf ⟨input, hif, readTemplate_eq_ok_iff.mp ht⟩ hunless
      | some _ => cases h
  · intro h
    cases h with
    | always hif hunless => exact ⟨none, hif, none, hunless, rfl⟩
    | onlyIf hif hunless =>
      obtain ⟨input, hif, ht⟩ := hif
      exact ⟨some input, hif, none, hunless,
        map_eq_ok_iff.mpr ⟨_, readTemplate_eq_ok_iff.mpr ht, rfl⟩⟩
    | exceptIf hif hunless =>
      obtain ⟨input, hunless, ht⟩ := hunless
      exact ⟨none, hif, some input, hunless,
        map_eq_ok_iff.mpr ⟨_, readTemplate_eq_ok_iff.mpr ht, rfl⟩⟩

theorem nameAndValue_eq_ok_iff {e : Entity} {entry : Template × Template} :
    e.nameAndValue = .ok entry ↔ e.GivesEntry entry := by
  simp only [nameAndValue, bind_eq_ok_iff, template_eq_ok_iff, Except.ok.injEq]
  constructor
  · rintro ⟨name, hname, value, hvalue, rfl⟩
    exact ⟨hname, hvalue⟩
  · rintro ⟨hname, hvalue⟩
    exact ⟨_, hname, _, hvalue, rfl⟩

theorem namesAndValues_eq_ok_iff {items : List Entity} {entries : List (Template × Template)} :
    namesAndValues items = .ok entries ↔ List.Forall₂ GivesEntry items entries := by
  induction items generalizing entries with
  | nil => simp [namesAndValues, eq_comm]
  | cons e rest ih =>
    simp only [namesAndValues, bind_eq_ok_iff, nameAndValue_eq_ok_iff, ih, Except.ok.injEq]
    constructor
    · rintro ⟨entry, hentry, others, hothers, rfl⟩
      exact .cons hentry hothers
    · intro h
      cases h with
      | cons hentry hothers => exact ⟨_, hentry, _, hothers, rfl⟩

theorem keep?_eq_ok_iff {e : Entity} {keep : Option (List (Template × Template))} :
    e.keep? = .ok keep ↔ e.GivesKeep keep := by
  simp only [keep?, bind_eq_ok_iff, entities?_eq_ok_iff]
  constructor
  · rintro ⟨items, hitems, h⟩
    cases items with
    | none =>
      cases h
      exact hitems
    | some items =>
      obtain ⟨entries, hentries, rfl⟩ := map_eq_ok_iff.mp h
      exact ⟨items, hitems, namesAndValues_eq_ok_iff.mp hentries⟩
  · intro h
    cases keep with
    | none => exact ⟨none, h, rfl⟩
    | some entries =>
      obtain ⟨items, hitems, hentries⟩ := h
      exact ⟨some items, hitems,
        map_eq_ok_iff.mpr ⟨entries, namesAndValues_eq_ok_iff.mpr hentries, rfl⟩⟩

theorem scope_eq_iff {e : Entity} {isScoped : Bool} :
    (∃ b, e.boolean? "scoped" = .ok b ∧ b.getD true = isScoped) ↔ e.GivesScope isScoped := by
  simp only [boolean?_eq_ok_iff]
  constructor
  · rintro ⟨b, hb, rfl⟩
    cases b with
    | none => exact .inl ⟨hb, rfl⟩
    | some b => exact .inr hb
  · rintro (⟨hb, rfl⟩ | hb)
    · exact ⟨none, hb, rfl⟩
    · exact ⟨some isScoped, hb, rfl⟩

theorem toActions_eq_ok_iff {r : Registry} {l : List Entity} {actions : List Action} :
    toActions r l = .ok actions ↔ List.Forall₂ (fun e a => e.toAction r = .ok a) l actions := by
  induction l generalizing actions with
  | nil => simp [toActions, eq_comm]
  | cons e rest ih =>
    simp only [toActions, bind_eq_ok_iff, ih, Except.ok.injEq]
    constructor
    · rintro ⟨a, ha, others, hothers, rfl⟩
      exact .cons ha hothers
    · intro h
      cases h with
      | cons ha hothers => exact ⟨_, ha, _, hothers, rfl⟩

theorem childActions_eq_ok_iff {r : Registry} {children : Except ParseError (List Entity)}
    {actions : List Action} :
    childActions r children = .ok actions ↔
      ∃ l, children = .ok l ∧ List.Forall₂ (fun e a => e.toAction r = .ok a) l actions := by
  cases children with
  | error err => simp [childActions]
  | ok l => simp [childActions, toActions_eq_ok_iff]

theorem toAction_of_tag {e : Entity} {kind : ActionKind} (h : e.tag = kind.tag) :
    e.toAction .builtin = e.make (fun _ => childActions .builtin e.children) kind := by
  rw [toAction_eq_build, Registry.build_builtin, ActionKind.ofTag?_eq_some_iff.mpr h]

theorem denotes_of_toAction {e : Entity} {a : Action} (h : e.toAction .builtin = .ok a) :
    e.Denotes a := by
  have hall := toAction.mutual_induct
    (motive_1 := fun e => ∀ a, e.toAction .builtin = .ok a → e.Denotes a)
    (motive_2 := fun children => ∀ l, children = .ok l → ∀ actions,
      List.Forall₂ (fun e a => e.toAction .builtin = .ok a) l actions →
      List.Forall₂ Denotes l actions)
    (motive_3 := fun l => ∀ actions,
      List.Forall₂ (fun e a => e.toAction .builtin = .ok a) l actions →
      List.Forall₂ Denotes l actions)
  refine (hall ?entity ?children ?fault ?nil ?cons).1 e a h
  case entity =>
    intro tag children attr? ih a h
    rw [toAction, Registry.build_builtin_eq_ok_iff] at h
    obtain ⟨kind, htag, h⟩ := h
    cases kind with
    | setVariable =>
      simp only [make, bind_eq_ok_iff, condition?_eq_ok_iff, nameAndValue_eq_ok_iff] at h
      obtain ⟨c, hc, entry, hentry, h⟩ := h
      cases h
      exact .setVariable htag hc hentry
    | unsetVariable =>
      simp only [make, bind_eq_ok_iff, condition?_eq_ok_iff, template_eq_ok_iff] at h
      obtain ⟨c, hc, name, hname, h⟩ := h
      cases h
      exact .unsetVariable htag hc hname
    | setConfiguration =>
      simp only [make, bind_eq_ok_iff, condition?_eq_ok_iff, nameAndValue_eq_ok_iff] at h
      obtain ⟨c, hc, entry, hentry, h⟩ := h
      cases h
      exact .setConfiguration htag hc hentry
    | declareArgument =>
      simp only [make, bind_eq_ok_iff, condition?_eq_ok_iff, template_eq_ok_iff,
        template?_eq_ok_iff] at h
      obtain ⟨c, hc, name, hname, default, hdefault, description, hdescription, h⟩ := h
      cases h
      exact .declareArgument htag hc hname hdefault hdescription
    | resetConfigurations =>
      simp only [make, bind_eq_ok_iff, condition?_eq_ok_iff, keep?_eq_ok_iff] at h
      obtain ⟨c, hc, keep, hkeep, h⟩ := h
      cases h
      exact .resetConfigurations htag hc hkeep
    | log =>
      simp only [make, bind_eq_ok_iff, condition?_eq_ok_iff, template_eq_ok_iff] at h
      obtain ⟨c, hc, message, hmessage, h⟩ := h
      cases h
      exact .log htag hc hmessage
    | group =>
      simp only [make, bind_eq_ok_iff, condition?_eq_ok_iff, childActions_eq_ok_iff] at h
      obtain ⟨c, hc, isScoped, hscope, actions, ⟨l, hl, hactions⟩, h⟩ := h
      cases h
      exact .group htag hc (scope_eq_iff.mp ⟨_, hscope, rfl⟩) hl (ih l hl actions hactions)
    | shutdown =>
      simp only [make, bind_eq_ok_iff, condition?_eq_ok_iff, template?_eq_ok_iff] at h
      obtain ⟨c, hc, reason, hreason, h⟩ := h
      cases h
      exact .shutdown htag hc hreason
  case children =>
    rintro l ih l' hl
    cases hl
    exact ih
  case fault =>
    intro err l hl
    cases hl
  case nil =>
    intro actions h
    cases h
    exact .nil
  case cons =>
    intro e rest ihe ihrest actions h
    cases h with
    | cons ha hothers => exact .cons (ihe _ ha) (ihrest _ hothers)

theorem toAction_of_denotes {e : Entity} {a : Action} (h : e.Denotes a) :
    e.toAction .builtin = .ok a := by
  refine Denotes.rec (motive_1 := fun e a _ => e.toAction .builtin = .ok a)
    (motive_2 := fun l actions _ => List.Forall₂ (fun e a => e.toAction .builtin = .ok a) l actions)
    ?setVariable ?unsetVariable ?setConfiguration ?declareArgument ?resetConfigurations ?log
    ?group ?shutdown ?nil ?cons h
  case setVariable =>
    intro e c entry htag hc hentry
    simp only [toAction_of_tag htag, make, bind_eq_ok_iff, condition?_eq_ok_iff,
      nameAndValue_eq_ok_iff]
    exact ⟨c, hc, entry, hentry, rfl⟩
  case unsetVariable =>
    intro e c name htag hc hname
    simp only [toAction_of_tag htag, make, bind_eq_ok_iff, condition?_eq_ok_iff,
      template_eq_ok_iff]
    exact ⟨c, hc, name, hname, rfl⟩
  case setConfiguration =>
    intro e c entry htag hc hentry
    simp only [toAction_of_tag htag, make, bind_eq_ok_iff, condition?_eq_ok_iff,
      nameAndValue_eq_ok_iff]
    exact ⟨c, hc, entry, hentry, rfl⟩
  case declareArgument =>
    intro e c name default description htag hc hname hdefault hdescription
    simp only [toAction_of_tag htag, make, bind_eq_ok_iff, condition?_eq_ok_iff,
      template_eq_ok_iff, template?_eq_ok_iff]
    exact ⟨c, hc, name, hname, default, hdefault, description, hdescription, rfl⟩
  case resetConfigurations =>
    intro e c keep htag hc hkeep
    simp only [toAction_of_tag htag, make, bind_eq_ok_iff, condition?_eq_ok_iff, keep?_eq_ok_iff]
    exact ⟨c, hc, keep, hkeep, rfl⟩
  case log =>
    intro e c message htag hc hmessage
    simp only [toAction_of_tag htag, make, bind_eq_ok_iff, condition?_eq_ok_iff,
      template_eq_ok_iff]
    exact ⟨c, hc, message, hmessage, rfl⟩
  case group =>
    intro e c isScoped l actions htag hc hscope hchildren _ ih
    obtain ⟨b, hb, rfl⟩ := scope_eq_iff.mpr hscope
    simp only [toAction_of_tag htag, make, bind_eq_ok_iff, condition?_eq_ok_iff,
      childActions_eq_ok_iff]
    exact ⟨c, hc, b, hb, actions, ⟨l, hchildren, ih⟩, rfl⟩
  case shutdown =>
    intro e c reason htag hc hreason
    simp only [toAction_of_tag htag, make, bind_eq_ok_iff, condition?_eq_ok_iff,
      template?_eq_ok_iff]
    exact ⟨c, hc, reason, hreason, rfl⟩
  case nil => exact .nil
  case cons => exact fun _ _ ihe ihrest => .cons ihe ihrest

/-- **Reading finds what an entity denotes and nothing else.** -/
theorem toAction_eq_ok_iff {e : Entity} {a : Action} :
    e.toAction .builtin = .ok a ↔ e.Denotes a :=
  ⟨denotes_of_toAction, toAction_of_denotes⟩

theorem toDescription_eq_ok_iff {e : Entity} {d : Description} :
    e.toDescription .builtin = .ok d ↔ e.tag = "launch" ∧
      ∃ children, e.children = .ok children ∧ List.Forall₂ Denotes children d.actions := by
  unfold toDescription
  split
  · rename_i htag
    simp only [bind_eq_ok_iff, childActions_eq_ok_iff, toAction_eq_ok_iff]
    constructor
    · rintro ⟨actions, hactions, h⟩
      cases h
      exact ⟨htag, hactions⟩
    · rintro ⟨-, hactions⟩
      exact ⟨d.actions, hactions, rfl⟩
  · rename_i htag
    simp [htag]

/-! ## The grammar -/

/-- The text can be read as a template. -/
def IsTemplate (content : String) : Prop := ∃ t, Template.parse content = .ok t

/-- The entity has a text that can be read. -/
def Requires (e : Entity) (name : String) : Prop :=
  ∃ content, e.HasText name content ∧ IsTemplate content

/-- The entity does not have the attribute, or a text that can be read. -/
def Allows (e : Entity) (name : String) : Prop := e.Lacks name ∨ e.Requires name

/-- The conditions of an entity are well formed, and there is one of them at most. -/
structure HasCondition (e : Entity) : Prop where
  allows_if : e.Allows "if"
  allows_unless : e.Allows "unless"
  exclusive : e.Lacks "if" ∨ e.Lacks "unless"

/-- **The attributes of each kind**, children and conditions apart. -/
def HasAttributes (e : Entity) : ActionKind → Prop
  | .setVariable | .setConfiguration => e.Requires "name" ∧ e.Requires "value"
  | .unsetVariable => e.Requires "name"
  | .declareArgument => e.Requires "name" ∧ e.Allows "default" ∧ e.Allows "description"
  | .resetConfigurations => e.Lacks "keep" ∨ ∃ items, e.HasEntities "keep" items ∧
      ∀ item ∈ items, item.Requires "name" ∧ item.Requires "value"
  | .log => e.Requires "message"
  | .group => e.Lacks "scoped" ∨ ∃ b, e.GivesTruth "scoped" b
  | .shutdown => e.Allows "reason"

/-- **The grammar of actions.**  Only of a group the children matter. -/
inductive IsAction : Entity → Prop
  | leaf {e kind} : e.tag = ActionKind.tag kind → kind ≠ .group → e.HasCondition →
      e.HasAttributes kind → IsAction e
  | group {e children} : e.tag = ActionKind.group.tag → e.HasCondition →
      e.HasAttributes .group → e.children = .ok children → (∀ c ∈ children, IsAction c) → IsAction e

/-- **The grammar of descriptions.** -/
def IsDescription (e : Entity) : Prop :=
  e.tag = "launch" ∧ ∃ children, e.children = .ok children ∧ ∀ c ∈ children, c.IsAction

theorem requires_iff {e : Entity} {name : String} : e.Requires name ↔ ∃ t, e.Gives name t := by
  constructor
  · rintro ⟨content, hcontent, t, ht⟩
    exact ⟨t, content, hcontent, ht⟩
  · rintro ⟨t, content, hcontent, ht⟩
    exact ⟨content, hcontent, t, ht⟩

theorem allows_iff {e : Entity} {name : String} : e.Allows name ↔ ∃ t, e.GivesIfAny name t := by
  rw [Allows, requires_iff, Option.exists]
  rfl

theorem requires_entry_iff {e : Entity} :
    e.Requires "name" ∧ e.Requires "value" ↔ ∃ entry, e.GivesEntry entry := by
  rw [requires_iff, requires_iff]
  constructor
  · rintro ⟨⟨name, hname⟩, value, hvalue⟩
    exact ⟨(name, value), hname, hvalue⟩
  · rintro ⟨entry, hname, hvalue⟩
    exact ⟨⟨_, hname⟩, _, hvalue⟩

theorem hasCondition_iff {e : Entity} : e.HasCondition ↔ ∃ c, e.GivesCondition c := by
  constructor
  · rintro ⟨hif, hunless, hlacks | hlacks⟩
    · rcases hunless with hunless | hunless
      · exact ⟨_, .always hlacks hunless⟩
      · obtain ⟨t, ht⟩ := requires_iff.mp hunless
        exact ⟨_, .exceptIf hlacks ht⟩
    · rcases hif with hif | hif
      · exact ⟨_, .always hif hlacks⟩
      · obtain ⟨t, ht⟩ := requires_iff.mp hif
        exact ⟨_, .onlyIf ht hlacks⟩
  · rintro ⟨c, hc⟩
    cases hc with
    | always hif hunless => exact ⟨.inl hif, .inl hunless, .inl hif⟩
    | onlyIf hif hunless =>
      exact ⟨.inr (requires_iff.mpr ⟨_, hif⟩), .inl hunless, .inr hunless⟩
    | exceptIf hif hunless =>
      exact ⟨.inl hif, .inr (requires_iff.mpr ⟨_, hunless⟩), .inl hif⟩

theorem exists_forall₂_iff {α β : Type} {R : α → β → Prop} {l : List α} :
    (∃ l', List.Forall₂ R l l') ↔ ∀ x ∈ l, ∃ y, R x y := by
  induction l with
  | nil => simp
  | cons x l ih =>
    rw [List.forall_mem_cons, ← ih]
    constructor
    · rintro ⟨_, h⟩
      cases h with
      | cons hx hl => exact ⟨⟨_, hx⟩, _, hl⟩
    · rintro ⟨⟨y, hx⟩, l', hl⟩
      exact ⟨y :: l', .cons hx hl⟩

theorem givesKeep_iff {e : Entity} :
    e.HasAttributes .resetConfigurations ↔ ∃ keep, e.GivesKeep keep := by
  simp only [HasAttributes, requires_entry_iff, ← exists_forall₂_iff]
  constructor
  · rintro (hlacks | ⟨items, hitems, entries, hentries⟩)
    · exact ⟨none, hlacks⟩
    · exact ⟨some entries, items, hitems, hentries⟩
  · rintro ⟨_ | entries, hkeep⟩
    · exact .inl hkeep
    · obtain ⟨items, hitems, hentries⟩ := hkeep
      exact .inr ⟨items, hitems, entries, hentries⟩

theorem givesScope_iff {e : Entity} : e.HasAttributes .group ↔ ∃ b, e.GivesScope b := by
  constructor
  · rintro (hlacks | ⟨b, hb⟩)
    · exact ⟨true, .inl ⟨hlacks, rfl⟩⟩
    · exact ⟨b, .inr hb⟩
  · rintro ⟨b, ⟨hlacks, -⟩ | hb⟩
    · exact .inl hlacks
    · exact .inr ⟨b, hb⟩

theorem isAction_iff {e : Entity} : e.IsAction ↔ ∃ a, e.Denotes a := by
  constructor
  · intro h
    induction h with
    | @leaf e kind htag hkind hcondition hattributes =>
      obtain ⟨c, hc⟩ := hasCondition_iff.mp hcondition
      cases kind with
      | setVariable =>
        obtain ⟨entry, hentry⟩ := requires_entry_iff.mp hattributes
        exact ⟨_, .setVariable htag hc hentry⟩
      | unsetVariable =>
        obtain ⟨name, hname⟩ := requires_iff.mp hattributes
        exact ⟨_, .unsetVariable htag hc hname⟩
      | setConfiguration =>
        obtain ⟨entry, hentry⟩ := requires_entry_iff.mp hattributes
        exact ⟨_, .setConfiguration htag hc hentry⟩
      | declareArgument =>
        obtain ⟨hname, hdefault, hdescription⟩ := hattributes
        obtain ⟨name, hname⟩ := requires_iff.mp hname
        obtain ⟨default, hdefault⟩ := allows_iff.mp hdefault
        obtain ⟨description, hdescription⟩ := allows_iff.mp hdescription
        exact ⟨_, .declareArgument htag hc hname hdefault hdescription⟩
      | resetConfigurations =>
        obtain ⟨keep, hkeep⟩ := givesKeep_iff.mp hattributes
        exact ⟨_, .resetConfigurations htag hc hkeep⟩
      | log =>
        obtain ⟨message, hmessage⟩ := requires_iff.mp hattributes
        exact ⟨_, .log htag hc hmessage⟩
      | group => exact absurd rfl hkind
      | shutdown =>
        obtain ⟨reason, hreason⟩ := allows_iff.mp hattributes
        exact ⟨_, .shutdown htag hc hreason⟩
    | group htag hcondition hattributes hchildren _ ih =>
      obtain ⟨c, hc⟩ := hasCondition_iff.mp hcondition
      obtain ⟨isScoped, hscope⟩ := givesScope_iff.mp hattributes
      obtain ⟨actions, hactions⟩ := exists_forall₂_iff.mpr ih
      exact ⟨_, .group htag hc hscope hchildren hactions⟩
  · rintro ⟨a, h⟩
    refine Denotes.rec (motive_1 := fun e _ _ => e.IsAction)
      (motive_2 := fun l _ _ => ∀ c ∈ l, c.IsAction)
      ?setVariable ?unsetVariable ?setConfiguration ?declareArgument ?resetConfigurations ?log
      ?group ?shutdown ?nil ?cons h
    case setVariable =>
      intro e c entry htag hc hentry
      exact .leaf htag nofun (hasCondition_iff.mpr ⟨c, hc⟩) (requires_entry_iff.mpr ⟨_, hentry⟩)
    case unsetVariable =>
      intro e c name htag hc hname
      exact .leaf htag nofun (hasCondition_iff.mpr ⟨c, hc⟩) (requires_iff.mpr ⟨_, hname⟩)
    case setConfiguration =>
      intro e c entry htag hc hentry
      exact .leaf htag nofun (hasCondition_iff.mpr ⟨c, hc⟩) (requires_entry_iff.mpr ⟨_, hentry⟩)
    case declareArgument =>
      intro e c name default description htag hc hname hdefault hdescription
      exact .leaf htag nofun (hasCondition_iff.mpr ⟨c, hc⟩) ⟨requires_iff.mpr ⟨_, hname⟩,
        allows_iff.mpr ⟨_, hdefault⟩, allows_iff.mpr ⟨_, hdescription⟩⟩
    case resetConfigurations =>
      intro e c keep htag hc hkeep
      exact .leaf htag nofun (hasCondition_iff.mpr ⟨c, hc⟩) (givesKeep_iff.mpr ⟨_, hkeep⟩)
    case log =>
      intro e c message htag hc hmessage
      exact .leaf htag nofun (hasCondition_iff.mpr ⟨c, hc⟩) (requires_iff.mpr ⟨_, hmessage⟩)
    case group =>
      intro e c isScoped l actions htag hc hscope hchildren _ ih
      exact .group htag (hasCondition_iff.mpr ⟨c, hc⟩) (givesScope_iff.mpr ⟨_, hscope⟩) hchildren ih
    case shutdown =>
      intro e c reason htag hc hreason
      exact .leaf htag nofun (hasCondition_iff.mpr ⟨c, hc⟩) (allows_iff.mpr ⟨_, hreason⟩)
    case nil => simp
    case cons => exact fun _ _ hc hl => List.forall_mem_cons.mpr ⟨hc, hl⟩

/-- **The reader accepts exactly the grammar.**  What it makes of a description has one action for
each child, in order and at every level, with all that the attributes of the child say; and an
action is of the class that the tag of its entity is registered for. -/
theorem toDescription_grammar (e : Entity) :
    ((∃ d, e.toDescription .builtin = .ok d) ↔ e.IsDescription) ∧
      (∀ d, e.toDescription .builtin = .ok d →
        ∃ children, e.children = .ok children ∧ List.Forall₂ Denotes children d.actions) ∧
      ∀ c a, Denotes c a → Registry.builtin.classOf? c.tag = some a.toClass := by
  refine ⟨?_, fun d hd => (toDescription_eq_ok_iff.mp hd).2, fun c a h => h.classOf?⟩
  simp only [toDescription_eq_ok_iff, IsDescription, isAction_iff, ← exists_forall₂_iff]
  constructor
  · rintro ⟨d, htag, children, hchildren, hactions⟩
    exact ⟨htag, children, hchildren, d.actions, hactions⟩
  · rintro ⟨htag, children, hchildren, actions, hactions⟩
    exact ⟨⟨actions⟩, htag, children, hchildren, hactions⟩

/-- A group with a message inside. -/
def messageGroup : Entity where
  tag := "group"
  children := .ok [⟨"log", .ok [], fun name =>
    .ok (if name = "message" then some (.text "go") else none)⟩]
  attr? name := .ok (if name = "scoped" then some (.text " FALSE ") else none)

/-- The action that the group with the message stands for. -/
def messageAction : Action := .group none false [.log none (Template.literal "go")]

theorem toDescription_messageGroup :
    (∃ d, toDescription .builtin ⟨"launch", .ok [messageGroup], fun _ => .ok none⟩ = .ok d) ∧
      (∃ children, Except.ok (ε := ParseError) [messageGroup] = .ok children ∧
        List.Forall₂ Denotes children [messageAction]) ∧
      Denotes messageGroup messageAction ∧
      Registry.builtin.classOf? messageGroup.tag = some messageAction.toClass := by
  have hgo : Template.parse "go" = .ok (Template.literal "go") := by cbv
  have hdenotes : Denotes messageGroup messageAction :=
    .group rfl (.always rfl rfl) (.inr ⟨" FALSE ", rfl, by decide⟩) rfl <|
      .cons (.log rfl (.always rfl rfl) ⟨"go", rfl, hgo⟩) .nil
  have hread : toDescription .builtin ⟨"launch", .ok [messageGroup], fun _ => .ok none⟩ =
      .ok ⟨[messageAction]⟩ := toDescription_eq_ok_iff.mpr ⟨rfl, _, rfl, .cons hdenotes .nil⟩
  have hgrammar := toDescription_grammar ⟨"launch", .ok [messageGroup], fun _ => .ok none⟩
  exact ⟨hgrammar.1.mpr (hgrammar.1.mp ⟨_, hread⟩), hgrammar.2.1 _ hread, hdenotes,
    hgrammar.2.2 _ _ hdenotes⟩

end Entity
end LaunchPlan
