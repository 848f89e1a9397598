import LaunchPlan.Proofs.Outline
import LaunchPlan.Yaml.Entity

/-! # Outlines in YAML

`Yaml.Writes` says how a label is written as a mapping.  The order of the fields is left open, and
whether an empty list of children is mentioned.

`Yaml.translates_writes` says that the entity of such a mapping shows the label.  Everything that
the label says is a field of one mapping, so this needs that no text of the label takes the place
of the entries to keep or of the children.
-/
namespace LaunchPlan
namespace Yaml

/-- The mapping of some fields, in their order. -/
def mappingOf (fields : List (String × Value)) : Value :=
  .mapping (fields.map fun field => (.string field.1, field.2))

/-- A mapping with these fields, in any order. -/
inductive IsMapping (fields : List (String × Value)) : Value → Prop
  | intro {fields' : List (String × Value)} : fields'.Perm fields →
    IsMapping fields (mappingOf fields')

/-- The fields of some texts. -/
def textFields (texts : OrderedMap String) : List (String × Value) :=
  texts.entries.map fun entry => (entry.1, .string entry.2)

/-- The fields of a list: one for the list, or none for an empty list. -/
inductive IsListField (key : String) (items : List Value) : List (String × Value) → Prop
  | present : IsListField key items [(key, .sequence items)]
  | absent : items = [] → IsListField key items []

/-- **How YAML writes a label**: a mapping from the tag to the mapping of all that the label says,
with the entries to keep and the children as lists.  Without entries to keep there is no list of
them. -/
def Writes : Layout Value := fun l inside v =>
  ∃ ks keep children body, List.Forall₂ (fun texts k => IsMapping (textFields texts) k) l.keep ks ∧
    IsListField "keep" ks keep ∧ (ks = [] → keep = []) ∧
    IsListField childrenKey inside children ∧
    IsMapping (textFields l.attributes ++ (keep ++ children)) body ∧
    v = mappingOf [(l.tag, body)]

/-- The attribute that a field gives, if it is there. -/
def attributeOf? (tag name : String) :
    Option Value → Except ParseError (Option (LaunchPlan.Attribute Entity))
  | none => .ok none
  | some v => attributeOf tag name v

/-- The child entities that the field of the children gives, if it is there. -/
def childrenOf? (tag : String) : Option Value → Except ParseError (List Entity)
  | none => .ok []
  | some (.sequence items) => taggedItems items
  | some .null => .ok []
  | some _ => .error (.attributeType tag childrenKey .entities)

theorem attribute?_fields (tag name : String) (fields : List (String × Value)) :
    attribute? tag (fields.map fun field => (.string field.1, field.2)) name =
      attributeOf? tag name (fields.lookup name) := by
  induction fields with
  | nil => rfl
  | cons entry fields ih =>
    rw [List.map_cons, attribute?, OrderedMap.lookup_cons, ih]
    by_cases h : name = entry.1
    · simp [h, Value.text?, Value.untagged, attributeOf?]
    · simp [h, Ne.symm h, Value.text?, Value.untagged]

theorem childItems_fields (tag : String) (fields : List (String × Value)) :
    childItems tag (fields.map fun field => (.string field.1, field.2)) =
      childrenOf? tag (fields.lookup childrenKey) := by
  induction fields with
  | nil => rfl
  | cons entry fields ih =>
    obtain ⟨key, v⟩ := entry
    rw [List.map_cons, OrderedMap.lookup_cons]
    by_cases h : key = childrenKey
    · cases v <;> simp [childItems, h, childrenOf?]
    · cases v <;> simp [childItems, h, Ne.symm h, ih]

section IsMapping
variable {fields : List (String × Value)} {body : Value}

theorem IsMapping.tag_entity (h : IsMapping fields body) (tag : String) :
    (body.entity tag).tag = tag := by
  cases h
  rfl

theorem IsMapping.attr?_entity (h : IsMapping fields body) (hkeys : (fields.map Prod.fst).Nodup)
    (tag name : String) :
    (body.entity tag).attr? name = attributeOf? tag name (fields.lookup name) := by
  cases h with
  | intro hperm =>
    rw [← OrderedMap.lookup_perm hperm hkeys]
    exact attribute?_fields tag name _

theorem IsMapping.children_entity (h : IsMapping fields body)
    (hkeys : (fields.map Prod.fst).Nodup) (tag : String) :
    (body.entity tag).children = childrenOf? tag (fields.lookup childrenKey) := by
  cases h with
  | intro hperm =>
    rw [← OrderedMap.lookup_perm hperm hkeys]
    exact childItems_fields tag _

end IsMapping

theorem lookup_textFields (texts : OrderedMap String) (name : String) :
    (textFields texts).lookup name = (texts.get? name).map .string := by
  rw [textFields, OrderedMap.get?]
  induction texts.entries with
  | nil => rfl
  | cons entry entries ih =>
    rw [List.map_cons, OrderedMap.lookup_cons, OrderedMap.lookup_cons, ih]
    split <;> rfl

theorem keys_textFields (texts : OrderedMap String) :
    (textFields texts).map Prod.fst = texts.keys := by
  rw [textFields, List.map_map]
  rfl

theorem taggedItems_of_forall₂ {vs : List Value} {es : List Entity}
    (h : List.Forall₂ (fun v e => taggedEntity v = .ok e) vs es) : taggedItems vs = .ok es := by
  induction h with
  | nil => rfl
  | cons h _ ih =>
    rw [taggedItems, h, ih]
    rfl

theorem says_keep (tag : String) {keep : List (OrderedMap String)} {ks : List Value}
    (h : List.Forall₂ (fun texts k => IsMapping (textFields texts) k) keep ks) :
    ∃ items, listItems tag "keep" ks = .ok items ∧
      List.Forall₂ (fun texts item => item.Says "keep" texts) keep items := by
  induction h with
  | nil => exact ⟨[], rfl, .nil⟩
  | @cons texts k _ _ hmapping _ ih =>
    obtain ⟨items, hitems, hsays⟩ := ih
    have hkeys : ((textFields texts).map Prod.fst).Nodup := keys_textFields texts ▸ texts.nodup_keys
    refine ⟨k.entity "keep" :: items, ?_, .cons ⟨hmapping.tag_entity _, fun name _ => ?_⟩ hsays⟩
    · cases hmapping
      rw [listItems, hitems]
      rfl
    · rw [hmapping.attr?_entity hkeys, lookup_textFields]
      cases texts.get? name <;> rfl

section IsListField
variable {key : String} {items : List Value} {fields : List (String × Value)}

theorem IsListField.keys (h : IsListField key items fields) :
    (fields.map Prod.fst).Sublist [key] := by
  cases h with
  | present => exact .refl _
  | absent => exact List.nil_sublist _

theorem IsListField.lookup_ne (h : IsListField key items fields) {name : String}
    (hname : name ≠ key) : fields.lookup name = none := by
  cases h with
  | present => rw [OrderedMap.lookup_cons, if_neg hname, List.lookup_nil]
  | absent => rfl

theorem IsListField.lookup_self (h : IsListField key items fields) :
    fields.lookup key = some (.sequence items) ∨ fields.lookup key = none ∧ items = [] := by
  cases h with
  | present => exact .inl (by rw [OrderedMap.lookup_cons, if_pos rfl])
  | absent hitems => exact .inr ⟨rfl, hitems⟩

end IsListField

/-- No key occurs twice among the fields of a label. -/
theorem nodup_keys_fields (l : Label) {ks inside : List Value}
    {keep children : List (String × Value)} (hkeep : IsListField "keep" ks keep)
    (hchildren : IsListField childrenKey inside children) :
    ((textFields l.attributes ++ (keep ++ children)).map Prod.fst).Nodup := by
  rw [List.map_append, List.map_append, keys_textFields]
  refine List.Nodup.sublist ((hkeep.keys.append hchildren.keys).append_left _) ?_
  rw [List.nodup_append]
  refine ⟨l.attributes.nodup_keys, by decide, ?_⟩
  rintro key hkey _ hlist rfl
  rcases List.mem_pair.mp hlist with rfl | rfl
  · exact l.attributes_free.1 hkey
  · exact l.attributes_free.2 hkey

/-- A mapping of one tag is the entity of what it writes. -/
theorem translates_writes :
    Layout.Translates Writes Entity.Shows fun v e => taggedEntity v = .ok e := by
  intro l inside v es hwrites hinside _
  obtain ⟨ks, keep, children, body, hks, hkeep, habsent, hchildren, hbody, rfl⟩ := hwrites
  obtain ⟨items, hitems, hsays⟩ := says_keep l.tag hks
  have hattributes : l.attributes.get? "keep" = none ∧ l.attributes.get? childrenKey = none :=
    ⟨OrderedMap.get?_eq_none_iff.mpr l.attributes_free.1,
      OrderedMap.get?_eq_none_iff.mpr l.attributes_free.2⟩
  have hkeys := nodup_keys_fields l hkeep hchildren
  have hlookup (name : String) : (textFields l.attributes ++ (keep ++ children)).lookup name =
      ((l.attributes.get? name).map Value.string).or
        ((keep.lookup name).or (children.lookup name)) := by
    rw [List.lookup_append, List.lookup_append, lookup_textFields]
  refine ⟨body.entity l.tag, rfl, ⟨hbody.tag_entity l.tag, fun name hname => ?_⟩,
    ⟨items, ?_, hsays⟩, fun _ => ?_⟩
  · have hnokeep : name ≠ "keep" := by
      rintro rfl
      exact absurd hname (by decide)
    have hnochildren : name ≠ childrenKey := by
      rintro rfl
      exact absurd hname (by decide)
    rw [hbody.attr?_entity hkeys, hlookup, hkeep.lookup_ne hnokeep,
      hchildren.lookup_ne hnochildren]
    cases l.attributes.get? name <;> rfl
  · have hno : "keep" ≠ childrenKey := by decide
    have hlength : items.length = ks.length := hsays.length_eq.symm.trans hks.length_eq
    rw [hbody.attr?_entity hkeys, hlookup, hattributes.1, hchildren.lookup_ne hno]
    rcases hkeep.lookup_self with hlist | ⟨hlist, rfl⟩
    · have hne : items ≠ [] := by
        rintro rfl
        rw [habsent (List.length_eq_zero_iff.mp hlength.symm), List.lookup_nil] at hlist
        cases hlist
      rw [hlist, if_neg hne]
      simp only [Option.map_none, Option.none_or, Option.or_none, attributeOf?, attributeOf, hitems]
      rfl
    · rw [hlist, if_pos (List.length_eq_zero_iff.mp hlength)]
      rfl
  · have hno : childrenKey ≠ "keep" := by decide
    rw [hbody.children_entity hkeys, hlookup, hattributes.2, hkeep.lookup_ne hno]
    rcases hchildren.lookup_self with hlist | ⟨hlist, rfl⟩
    · rw [hlist]
      exact taggedItems_of_forall₂ hinside
    · rw [hlist]
      cases hinside
      rfl

theorem isTotal_writes : Layout.IsTotal Writes := by
  intro l inside _
  let ks := l.keep.map fun texts => mappingOf (textFields texts)
  have hks : List.Forall₂ (fun texts k => IsMapping (textFields texts) k) l.keep ks := by
    rw [List.forall₂_map_right_iff, List.forall₂_same]
    exact fun texts _ => .intro (.refl _)
  by_cases h : ks = []
  · exact ⟨_, ks, [], _, _, hks, .absent h, fun _ => rfl, .present, .intro (.refl _), rfl⟩
  · exact ⟨_, ks, _, _, _, hks, .present, fun hnil => absurd hnil h, .present,
      .intro (.refl _), rfl⟩

end Yaml

end LaunchPlan
