import Mathlib.Data.List.Forall2
import LaunchPlan.Proofs.Grammar

/-! # Outlines of descriptions

An outline is a description apart from its markup: a tree of labels, each with a tag, text
attributes and, for a reset, the entries to keep.  A `Layout` says how one label is written around
what its children are written as; `Item.In` and `Outline.In` are the trees that are written so at
every node.  Entities are a layout, too: `Entity.Shows` says which entities show a label.

Reading an entity looks at its tag, at the attributes `attributeNames` and, in a group, at its
children, and nowhere else (`Entity.toAction_congr`).  So an outline has one meaning, whichever
entity shows it (`Outline.toDescription_eq`).
-/
namespace LaunchPlan

/-- The attributes that actions read as texts. -/
def textNames : List String :=
  ["if", "unless", "name", "value", "message", "default", "description", "reason", "scoped"]

/-- The attributes that actions read. -/
def attributeNames : List String := "keep" :: textNames

/-! ## Entities that are read alike -/

namespace Entity

/-- Two entities have the same tag and the same texts to read. -/
structure Agrees (e f : Entity) : Prop where
  tag : e.tag = f.tag
  attr? : ∀ name ∈ textNames, e.attr? name = f.attr? name

namespace Agrees
variable {e f : Entity} {name : String}

theorem text? (h : e.Agrees f) (hname : name ∈ textNames) : e.text? name = f.text? name := by
  simp only [Entity.text?, Entity.asText, h.tag, h.attr? name hname]

theorem template (h : e.Agrees f) (hname : name ∈ textNames) :
    e.template name = f.template name := by
  simp only [Entity.template, Entity.text, Entity.attr, Entity.asText, h.tag, h.attr? name hname]

theorem template? (h : e.Agrees f) (hname : name ∈ textNames) :
    e.template? name = f.template? name := by
  simp only [Entity.template?, h.text? hname]

theorem boolean? (h : e.Agrees f) (hname : name ∈ textNames) :
    e.boolean? name = f.boolean? name := by
  simp only [Entity.boolean?, h.tag, h.text? hname]

theorem condition? (h : e.Agrees f) : e.condition? = f.condition? := by
  simp (disch := decide) only [Entity.condition?, h.tag, h.text?]

theorem nameAndValue (h : e.Agrees f) : e.nameAndValue = f.nameAndValue := by
  simp (disch := decide) only [Entity.nameAndValue, h.template]

theorem namesAndValues {es fs : List Entity} (h : List.Forall₂ Agrees es fs) :
    Entity.namesAndValues es = Entity.namesAndValues fs := by
  induction h with
  | nil => rfl
  | cons h _ ih => simp only [Entity.namesAndValues, h.nameAndValue, ih]

end Agrees

/-- **All that reading looks at**: the tag, the texts, the entries to keep and, in a group, the
actions inside. -/
theorem toAction_congr {e f : Entity} (h : e.Agrees f) (hkeep : e.keep? = f.keep?)
    (hinside : e.tag = ActionKind.group.tag →
      childActions .builtin e.children = childActions .builtin f.children) :
    toAction .builtin e = toAction .builtin f := by
  cases hkind : ActionKind.ofTag? e.tag with
  | some kind =>
    have htag := ActionKind.ofTag?_eq_some_iff.mp hkind
    rw [toAction_of_tag htag, toAction_of_tag (h.tag ▸ htag)]
    cases kind with
    | group =>
      have hinside := hinside htag
      simp (disch := decide) only [make, h.condition?, h.boolean?, hinside]
    | _ =>
      simp (disch := decide) only [make, h.condition?, h.nameAndValue, h.template, h.template?,
        hkeep]
  | none =>
    rw [toAction_eq_build, toAction_eq_build, ← h.tag, Registry.build_builtin, Registry.build_builtin,
      hkind]

end Entity

/-! ## Outlines -/

/-- What a node of an outline says about itself. -/
structure Label where
  /-- What the node is. -/
  tag : String
  /-- The texts of the node. -/
  attributes : OrderedMap String
  /-- The entries that a reset keeps; if there are none, the node does not mention them. -/
  keep : List (OrderedMap String)
  /-- The tag is not the name of an attribute. -/
  tag_not_attribute : tag ∉ attributeNames
  /-- The places of entries to keep and of children are not taken by texts. -/
  attributes_free : "keep" ∉ attributes.keys ∧ "children" ∉ attributes.keys
  /-- Only a reset keeps entries. -/
  keep_reset : keep ≠ [] → tag = ActionKind.resetConfigurations.tag

theorem Label.keep_eq_nil (l : Label) (htag : l.tag ≠ ActionKind.resetConfigurations.tag) :
    l.keep = [] :=
  Decidable.byContradiction fun hkeep => htag (l.keep_reset hkeep)

/-- A node of an outline; only a group has nodes inside. -/
inductive Item where
  /-- A node without children. -/
  | leaf (label : Label)
  /-- A group. -/
  | group (label : Label) (tag_group : label.tag = ActionKind.group.tag) (children : List Item)

namespace Item

/-- What a node says about itself. -/
def label : Item → Label
  | leaf label => label
  | group label .. => label

/-- The nodes inside a node. -/
def children : Item → List Item
  | leaf _ => []
  | group _ _ children => children

end Item

/-- An outline of a description. -/
structure Outline where
  /-- What the root says about itself. -/
  label : Label
  /-- The nodes inside the root. -/
  children : List Item

/-! ## Layouts -/

/-- How a label is written, when what is inside it is written as a list of `β`. -/
abbrev Layout (β : Type) := Label → List β → β → Prop

/-- A node is written in a layout, with all that is inside it. -/
inductive Item.In {β : Type} (M : Layout β) : Item → β → Prop
  | intro {i : Item} {inside : List β} {x : β} : M i.label inside x →
      List.Forall₂ (Item.In M) i.children inside → Item.In M i x

/-- An outline is written in a layout. -/
def Outline.In {β : Type} (M : Layout β) (o : Outline) (x : β) : Prop :=
  ∃ inside, M o.label inside x ∧ List.Forall₂ (Item.In M) o.children inside

section Translation
variable {β γ : Type} {M : Layout β} {N : Layout γ} {T : β → γ → Prop}

/-- A label written in `M` around translated children has a translation, written in `N`. -/
def Layout.Translates (M : Layout β) (N : Layout γ) (T : β → γ → Prop) : Prop :=
  ∀ {l inside x inside'}, M l inside x → List.Forall₂ T inside inside' →
    (∀ y ∈ inside', ∃ l inside, N l inside y) → ∃ y, T x y ∧ N l inside' y

/-- A label can be written in `M` around whatever is written in `M`. -/
def Layout.IsTotal (M : Layout β) : Prop :=
  ∀ l inside, (∀ y ∈ inside, ∃ l inside, M l inside y) → ∃ x, M l inside x

theorem Item.In.label_in {i : Item} {x : β} (h : i.In M x) : ∃ inside, M i.label inside x := by
  cases h with
  | intro hlabel _ => exact ⟨_, hlabel⟩

theorem exists_of_mem_right {R : β → γ → Prop} {xs : List β} {ys : List γ}
    (h : List.Forall₂ R xs ys) : ∀ y ∈ ys, ∃ x, R x y := by
  induction h with
  | nil => simp
  | cons h _ ih => exact List.forall_mem_cons.mpr ⟨⟨_, h⟩, ih⟩

theorem Item.exists_label_in {is : List Item} {xs : List β}
    (h : List.Forall₂ (Item.In M) is xs) : ∀ x ∈ xs, ∃ l inside, M l inside x := by
  intro x hx
  obtain ⟨i, hi⟩ := exists_of_mem_right h x hx
  exact ⟨_, hi.label_in⟩

mutual

/-- **A translation of labels translates whole nodes**, what is inside them first. -/
theorem Item.In.translate (hM : M.Translates N T) :
    ∀ (i : Item) {x : β}, i.In M x → ∃ y, T x y ∧ i.In N y
  | .leaf label, _, .intro hlabel .nil => by
    obtain ⟨y, hy, hN⟩ := hM hlabel .nil (by simp)
    exact ⟨y, hy, .intro hN .nil⟩
  | .group label _ children, _, .intro hlabel hinside => by
    obtain ⟨ys, hys, hin⟩ := Item.In.translate_all hM children hinside
    obtain ⟨y, hy, hN⟩ := hM hlabel hys (Item.exists_label_in hin)
    exact ⟨y, hy, .intro hN hin⟩

theorem Item.In.translate_all (hM : M.Translates N T) :
    ∀ (is : List Item) {xs : List β}, List.Forall₂ (Item.In M) is xs →
      ∃ ys, List.Forall₂ T xs ys ∧ List.Forall₂ (Item.In N) is ys
  | [], _, .nil => ⟨[], .nil, .nil⟩
  | i :: is, _, .cons h hs => by
    obtain ⟨y, hy, hin⟩ := Item.In.translate hM i h
    obtain ⟨ys, hys, hins⟩ := Item.In.translate_all hM is hs
    exact ⟨y :: ys, .cons hy hys, .cons hin hins⟩

end

mutual

/-- A layout of all labels is a layout of all nodes. -/
theorem Item.exists_in (hM : M.IsTotal) : ∀ i : Item, ∃ x, i.In M x
  | .leaf label => by
    obtain ⟨x, hx⟩ := hM label [] (by simp)
    exact ⟨x, .intro hx .nil⟩
  | .group label _ children => by
    obtain ⟨xs, hxs⟩ := Item.exists_all_in hM children
    obtain ⟨x, hx⟩ := hM label xs (Item.exists_label_in hxs)
    exact ⟨x, .intro hx hxs⟩

theorem Item.exists_all_in (hM : M.IsTotal) :
    ∀ is : List Item, ∃ xs, List.Forall₂ (Item.In M) is xs
  | [] => ⟨[], .nil⟩
  | i :: is => by
    obtain ⟨x, hx⟩ := Item.exists_in hM i
    obtain ⟨xs, hxs⟩ := Item.exists_all_in hM is
    exact ⟨x :: xs, .cons hx hxs⟩

end

theorem Outline.In.translate (hM : M.Translates N T) {o : Outline} {x : β} (h : o.In M x) :
    ∃ y, T x y ∧ o.In N y := by
  obtain ⟨xs, hlabel, hinside⟩ := h
  obtain ⟨ys, hys, hin⟩ := Item.In.translate_all hM o.children hinside
  obtain ⟨y, hy, hN⟩ := hM hlabel hys (Item.exists_label_in hin)
  exact ⟨y, hy, ys, hN, hin⟩

theorem Outline.exists_in (hM : M.IsTotal) (o : Outline) : ∃ x, o.In M x := by
  obtain ⟨xs, hxs⟩ := Item.exists_all_in hM o.children
  obtain ⟨x, hx⟩ := hM o.label xs (Item.exists_label_in hxs)
  exact ⟨x, xs, hx, hxs⟩

end Translation

/-! ## Entities that show an outline -/

namespace Entity

/-- The entity has this tag and these texts. -/
structure Says (e : Entity) (tag : String) (texts : OrderedMap String) : Prop where
  tag : e.tag = tag
  attr? : ∀ name ∈ textNames, e.attr? name = .ok ((texts.get? name).map .text)

/-- The entity shows a label, with these entities inside.  Whether the entries to keep are children,
too, is left open. -/
structure Shows (l : Label) (inside : List Entity) (e : Entity) : Prop
    extends e.Says l.tag l.attributes where
  keep : ∃ items, e.attr? "keep" = .ok (if items = [] then none else some (.entities items)) ∧
    List.Forall₂ (fun texts item => item.Says "keep" texts) l.keep items
  children : l.keep = [] → e.children = .ok inside

theorem Says.agrees {e f : Entity} {tag : String} {texts : OrderedMap String}
    (he : e.Says tag texts) (hf : f.Says tag texts) : e.Agrees f where
  tag := he.tag.trans hf.tag.symm
  attr? name hname := (he.attr? name hname).trans (hf.attr? name hname).symm

theorem Says.all_agree {keep : List (OrderedMap String)} {es fs : List Entity}
    (hes : List.Forall₂ (fun texts e => e.Says "keep" texts) keep es)
    (hfs : List.Forall₂ (fun texts e => e.Says "keep" texts) keep fs) :
    List.Forall₂ Agrees es fs := by
  induction hes generalizing fs with
  | nil =>
    cases hfs
    exact .nil
  | cons he _ ih =>
    cases hfs with
    | cons hf hfs => exact .cons (he.agrees hf) (ih hfs)

section Same
variable {l : Label} {e f : Entity} {es fs : List Entity}

theorem Shows.keep?_eq (he : Shows l es e) (hf : Shows l fs f) : e.keep? = f.keep? := by
  obtain ⟨items, hattr, hitems⟩ := he.keep
  obtain ⟨items', hattr', hitems'⟩ := hf.keep
  have hagree := Says.all_agree hitems hitems'
  simp only [keep?, entities?, hattr, hattr']
  cases hagree with
  | nil => rfl
  | cons hitem hrest =>
    simp only [reduceCtorEq, if_false, asEntities]
    exact congrArg (some <$> ·) (Agrees.namesAndValues (.cons hitem hrest))

theorem Shows.toAction_eq (he : Shows l es e) (hf : Shows l fs f)
    (hinside : toActions .builtin es = toActions .builtin fs) :
    toAction .builtin e = toAction .builtin f := by
  refine toAction_congr (he.toSays.agrees hf.toSays) (he.keep?_eq hf) fun htag => ?_
  have hkeep : l.keep = [] := l.keep_eq_nil (by rw [← he.tag, htag]; decide)
  rw [he.children hkeep, hf.children hkeep]
  exact hinside

end Same
end Entity

mutual

/-- Entities that show the same node are read as the same action. -/
theorem Item.toAction_eq : ∀ (i : Item) {e f : Entity},
    i.In Entity.Shows e → i.In Entity.Shows f → e.toAction .builtin = f.toAction .builtin
  | .leaf _, _, _, .intro he .nil, .intro hf .nil => he.toAction_eq hf rfl
  | .group _ _ children, _, _, .intro he hes, .intro hf hfs =>
    he.toAction_eq hf (Item.toActions_eq children hes hfs)

theorem Item.toActions_eq : ∀ (is : List Item) {es fs : List Entity},
    List.Forall₂ (Item.In Entity.Shows) is es → List.Forall₂ (Item.In Entity.Shows) is fs →
      Entity.toActions .builtin es = Entity.toActions .builtin fs
  | [], _, _, .nil, .nil => rfl
  | i :: is, _, _, .cons he hes, .cons hf hfs => by
    rw [Entity.toActions, Entity.toActions, Item.toAction_eq i he hf, Item.toActions_eq is hes hfs]

end

/-- **An outline has one meaning**: all entities that show it are read as the same description, or
fail with the same error. -/
theorem Outline.toDescription_eq {o : Outline} {e f : Entity} (he : o.In Entity.Shows e)
    (hf : o.In Entity.Shows f) : e.toDescription .builtin = f.toDescription .builtin := by
  obtain ⟨es, he, hes⟩ := he
  obtain ⟨fs, hf, hfs⟩ := hf
  rw [Entity.toDescription, Entity.toDescription, he.tag, hf.tag]
  by_cases htag : o.label.tag = "launch"
  · have hkeep : o.label.keep = [] := o.label.keep_eq_nil (by rw [htag]; decide)
    rw [if_pos htag, if_pos htag, he.children hkeep, hf.children hkeep]
    simp only [Entity.childActions, Item.toActions_eq o.children hes hfs]
  · rw [if_neg htag, if_neg htag]

end LaunchPlan
