import LaunchPlan.Proofs.Outline
import LaunchPlan.Xml.Entity

/-! # Outlines in XML

`Xml.Writes` says how a label is written as an element.  The order of the attributes and what
stands between the elements inside is left open.

`Xml.translates_writes` says that the entity of such an element shows the label.  Child elements
and attributes are looked up in the same place, so this needs that no tag is the name of an
attribute.
-/
namespace LaunchPlan
namespace Xml

/-- Whether a node is an element. -/
def Node.isElement : Node → Bool
  | .element .. => true
  | _ => false

/-- An element with this tag, these texts as its attributes and these elements inside; other nodes
may stand between them. -/
inductive IsElement (tag : String) (texts : OrderedMap String) (inside : List Node) : Node → Prop
  | intro {attributes : List Attribute} {content : List Node} :
    (∀ a ∈ attributes, a.space = none) →
    (attributes.map fun a => (a.name, a.value)).Perm texts.entries →
    content.filter Node.isElement = inside →
    IsElement tag texts inside (.element tag attributes content)

/-- **How XML writes a label**: the entries to keep are elements before the children. -/
def Writes : Layout Node := fun l inside x =>
  ∃ keep, List.Forall₂ (fun texts k => IsElement "keep" texts [] k) l.keep keep ∧
    IsElement l.tag l.attributes (keep ++ inside) x

theorem entities_filter_isElement (content : List Node) :
    Node.entities (content.filter Node.isElement) = Node.entities content := by
  induction content with
  | nil => rfl
  | cons x content ih =>
    cases x <;> simp [List.filter_cons, Node.isElement, Node.entities, Node.entity?, ih]

theorem entities_append (xs ys : List Node) :
    Node.entities (xs ++ ys) = Node.entities xs ++ Node.entities ys := by
  induction xs with
  | nil => rfl
  | cons x xs ih =>
    simp only [List.cons_append, Node.entities, ih]
    cases x.entity? <;> rfl

theorem entities_of_forall₂ {xs : List Node} {es : List Entity}
    (h : List.Forall₂ (fun x e => x.entity? = some e) xs es) : Node.entities xs = es := by
  induction h with
  | nil => rfl
  | cons h _ ih => simp only [Node.entities, h, ih]

/-- The attribute that the child entities of a name are. -/
def childAttribute (children : List Entity) (name : String) :
    Option (LaunchPlan.Attribute Entity) :=
  match children.filter fun e => e.tag == name with
  | [] => none
  | items => some (.entities items)

theorem attributeOf_eq {texts : OrderedMap String} {attributes : List Attribute}
    (hspace : ∀ a ∈ attributes, a.space = none)
    (htexts : (attributes.map fun a => (a.name, a.value)).Perm texts.entries)
    (children : List Entity) (name : String) :
    attributeOf attributes children name =
      ((texts.get? name).map .text).or (childAttribute children name) := by
  have hfind : (attributes.find? fun a => a.space.isNone && a.name == name).map Attribute.value =
      texts.get? name := by
    rw [OrderedMap.get?, ← OrderedMap.lookup_perm htexts texts.nodup]
    clear htexts
    induction attributes with
    | nil => rfl
    | cons a attributes ih =>
      rw [List.forall_mem_cons] at hspace
      rw [List.find?_cons, List.map_cons, OrderedMap.lookup_cons, hspace.1]
      by_cases h : name = a.name
      · simp [h]
      · have hne : (a.name == name) = false := by simpa using Ne.symm h
        simp only [h, hne, ih hspace.2, Option.isNone_none, Bool.and_false, if_false]
  rw [attributeOf, ← hfind]
  cases attributes.find? fun a => a.space.isNone && a.name == name <;> rfl

theorem IsElement.entity? {tag : String} {texts : OrderedMap String} {inside : List Node}
    {x : Node} {es : List Entity} (h : IsElement tag texts inside x)
    (hes : Node.entities inside = es) :
    ∃ e, x.entity? = some e ∧ e.tag = tag ∧ e.children = .ok es ∧
      ∀ name, e.attr? name = .ok (((texts.get? name).map .text).or (childAttribute es name)) := by
  cases h with
  | intro hspace htexts hinside =>
    subst hinside
    rw [entities_filter_isElement] at hes
    subst hes
    exact ⟨_, rfl, rfl, rfl, fun name => congrArg Except.ok (attributeOf_eq hspace htexts _ name)⟩

theorem says_keep {keep : List (OrderedMap String)} {ks : List Node}
    (h : List.Forall₂ (fun texts k => IsElement "keep" texts [] k) keep ks) :
    ∃ items, Node.entities ks = items ∧
      List.Forall₂ (fun texts item => item.Says "keep" texts) keep items := by
  induction h with
  | nil => exact ⟨[], rfl, .nil⟩
  | cons h _ ih =>
    obtain ⟨item, hentity, htag, -, hattr⟩ := h.entity? rfl
    obtain ⟨items, hitems, hsays⟩ := ih
    refine ⟨item :: items, by simp only [Node.entities, hentity, hitems], .cons ⟨htag, ?_⟩ hsays⟩
    intro name _
    rw [hattr]
    simp [Node.entities, childAttribute]

theorem childAttribute_eq_none {es : List Entity} {name : String} (h : ∀ e ∈ es, e.tag ≠ name) :
    childAttribute es name = none := by
  have hfilter : (es.filter fun e => e.tag == name) = [] := by
    simpa [List.filter_eq_nil_iff] using h
  rw [childAttribute, hfilter]

theorem childAttribute_keep {items es : List Entity} (hitems : ∀ e ∈ items, e.tag = "keep")
    (hes : ∀ e ∈ es, e.tag ≠ "keep") :
    childAttribute (items ++ es) "keep" = if items = [] then none else some (.entities items) := by
  have hfilter : ((items ++ es).filter fun e => e.tag == "keep") = items := by
    rw [List.filter_append, List.filter_eq_self.mpr (by simpa using hitems),
      List.filter_eq_nil_iff.mpr (by simpa using hes), List.append_nil]
  rw [childAttribute, hfilter]
  cases items <;> rfl

/-- An element is the entity of what it writes. -/
theorem translates_writes :
    Layout.Translates Writes Entity.Shows fun x e => x.entity? = some e := by
  intro l inside x es hwrites hinside hlabels
  obtain ⟨ks, hks, helement⟩ := hwrites
  obtain ⟨items, hitems, hsays⟩ := says_keep hks
  have hes : Node.entities (ks ++ inside) = items ++ es := by
    rw [entities_append, hitems, entities_of_forall₂ hinside]
  obtain ⟨e, hentity, htag, hchildren, hattr⟩ := helement.entity? hes
  -- no child of the node can be taken for an attribute
  have hitems_tag : ∀ item ∈ items, item.tag = "keep" := by
    intro item hitem
    obtain ⟨texts, hitem⟩ := exists_of_mem_right hsays item hitem
    exact hitem.tag
  have hes_tag : ∀ child ∈ es, child.tag ∉ attributeNames := by
    intro child hchild
    obtain ⟨l, inside, hshows⟩ := hlabels child hchild
    exact hshows.tag ▸ l.tag_not_attribute
  refine ⟨e, hentity, ⟨htag, fun name hname => ?_⟩, ⟨items, ?_, hsays⟩, fun hkeep => ?_⟩
  · have hnone : childAttribute (items ++ es) name = none := by
      refine childAttribute_eq_none fun child hchild => ?_
      rcases List.mem_append.mp hchild with hchild | hchild
      · rw [hitems_tag child hchild]
        rintro rfl
        exact absurd hname (by decide)
      · rintro rfl
        exact hes_tag child hchild (List.mem_cons_of_mem _ hname)
    rw [hattr, hnone, Option.or_none]
  · have hfree : l.attributes.get? "keep" = none :=
      OrderedMap.get?_eq_none_iff.mpr l.attributes_free.1
    rw [hattr, hfree, Option.map_none, Option.none_or, childAttribute_keep hitems_tag]
    intro child hchild htag
    exact hes_tag child hchild (htag ▸ List.mem_cons_self)
  · have hnil : items = [] := by
      rw [hkeep] at hsays
      cases hsays
      rfl
    rw [hchildren, hnil, List.nil_append]

/-- The element with nothing but the elements inside it. -/
def plainElement (tag : String) (texts : OrderedMap String) (inside : List Node) : Node :=
  .element tag (texts.entries.map fun entry => ⟨none, entry.1, entry.2⟩) inside

theorem isElement_plainElement (tag : String) (texts : OrderedMap String) {inside : List Node}
    (hinside : ∀ x ∈ inside, x.isElement) :
    IsElement tag texts inside (plainElement tag texts inside) := by
  refine .intro ?_ (by simp [List.map_map, Function.comp_def]) (List.filter_eq_self.mpr hinside)
  rw [List.forall_mem_map]
  exact fun _ _ => rfl

theorem isTotal_writes : Layout.IsTotal Writes := by
  intro l inside hinside
  have helements : ∀ x ∈ l.keep.map (plainElement "keep" · []) ++ inside, x.isElement := by
    intro x hx
    rcases List.mem_append.mp hx with hx | hx
    · obtain ⟨texts, -, rfl⟩ := List.mem_map.mp hx
      rfl
    · obtain ⟨_, _, _, -, helement⟩ := hinside x hx
      cases helement
      rfl
  refine ⟨_, _, ?_, isElement_plainElement l.tag l.attributes helements⟩
  rw [List.forall₂_map_right_iff, List.forall₂_same]
  exact fun texts _ => isElement_plainElement "keep" texts (by simp)

end Xml
end LaunchPlan
