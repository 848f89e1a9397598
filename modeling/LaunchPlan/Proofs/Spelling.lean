import Mathlib.Data.List.Forall2
import Mathlib.Logic.Relation
import LaunchPlan.Proofs.YamlLayout

/-! # Spellings of a document

YAML leaves some choice in writing the same description.  Children are the value of their entity or
a field of it, an entity without anything is null or an empty mapping, a field may be mentioned
without a value, and a truth value may stand where a text is read.

`Yaml.Respells` lists these choices as rewrites of the value of an entity, here or in a child at any
depth.  A rewrite is not seen by reading (`Respells.readAlike`): in all but the first the entity is
the very same, and in the first it differs in an attribute that no action reads.  What the children
become is carried upward by `Entity.ReadAlike`, which keeps two kinds of errors apart: that an item
is no entity is found before any of the items is read.

A field that is left out is looked up in vain, unless its key occurs a second time.  So the values
here are plain (`Value.IsPlain`), as all values of documents are apart from their keys, and they
stay so (`Respells.isPlain`).
-/
namespace LaunchPlan

/-! ## Entities that are read alike -/

/-- Two entities have the same tag, the same attributes to read, and children that are entities or
not in the same way and are read as the same actions. -/
structure Entity.ReadAlike (e f : Entity) : Prop where
  tag : e.tag = f.tag
  attr? : ∀ name ∈ attributeNames, e.attr? name = f.attr? name
  inside : toActions .builtin <$> e.children = toActions .builtin <$> f.children

namespace Entity
variable {e f : Entity}

theorem ReadAlike.of_eq (h : e = f) : e.ReadAlike f := by
  subst h
  exact ⟨rfl, fun _ _ => rfl, rfl⟩

theorem ReadAlike.symm (h : e.ReadAlike f) : f.ReadAlike e where
  tag := h.tag.symm
  attr? name hname := (h.attr? name hname).symm
  inside := h.inside.symm

theorem childActions_eq_join (r : Registry) (children : Except ParseError (List Entity)) :
    childActions r children = toActions r <$> children >>= id := by
  cases children <;> rfl

theorem ReadAlike.childActions_eq (h : e.ReadAlike f) :
    childActions .builtin e.children = childActions .builtin f.children := by
  rw [childActions_eq_join, h.inside, ← childActions_eq_join]

theorem ReadAlike.toAction_eq (h : e.ReadAlike f) : toAction .builtin e = toAction .builtin f := by
  have hagrees : e.Agrees f :=
    ⟨h.tag, fun name hname => h.attr? name (List.mem_cons_of_mem _ hname)⟩
  have hkeep : e.keep? = f.keep? := by
    simp only [keep?, entities?, asEntities, h.tag, h.attr? "keep" List.mem_cons_self]
  exact toAction_congr hagrees hkeep fun _ => h.childActions_eq

theorem ReadAlike.toDescription_eq (h : e.ReadAlike f) :
    e.toDescription .builtin = f.toDescription .builtin := by
  rw [toDescription, toDescription, h.tag, h.childActions_eq]

end Entity

namespace Yaml

/-! ## Plain values -/

/-- All mappings in a value, at any depth, have plain texts as keys, and none of them twice. -/
inductive Value.IsPlain : Value → Prop
  | null : IsPlain .null
  | boolean {b} : IsPlain (.boolean b)
  | number {n} : IsPlain (.number n)
  | string {text} : IsPlain (.string text)
  | sequence {items} : (∀ v ∈ items, IsPlain v) → IsPlain (.sequence items)
  | mapping {fields : List (String × Value)} : (fields.map Prod.fst).Nodup →
      (∀ field ∈ fields, IsPlain field.2) → IsPlain (mappingOf fields)
  | tagged {tag v} : IsPlain v → IsPlain (.tagged tag v)

theorem mappingOf_injective : Function.Injective mappingOf := by
  intro fields fields' h
  have hmap := Value.mapping.inj h
  have hinjective : Function.Injective
      fun field : String × Value => (Value.string field.1, field.2) := by
    rintro ⟨key, v⟩ ⟨key', v'⟩ h
    cases h
    rfl
  exact List.map_injective_iff.mpr hinjective hmap

namespace Value

@[simp] theorem isPlain_null : IsPlain null := .null

@[simp] theorem isPlain_string (text : String) : IsPlain (string text) := .string

@[simp] theorem isPlain_boolean (b : Bool) : IsPlain (boolean b) := .boolean

@[simp] theorem isPlain_sequence_iff {items : List Value} :
    (sequence items).IsPlain ↔ ∀ v ∈ items, v.IsPlain := by
  constructor
  · intro h
    cases h with
    | sequence h => exact h
  · exact .sequence

@[simp] theorem isPlain_mappingOf_iff {fields : List (String × Value)} :
    (mappingOf fields).IsPlain ↔
      (fields.map Prod.fst).Nodup ∧ ∀ field ∈ fields, field.2.IsPlain := by
  constructor
  · intro h
    generalize hv : mappingOf fields = v at h
    cases h with
    | mapping hkeys hvalues =>
      cases mappingOf_injective hv
      exact ⟨hkeys, hvalues⟩
    | _ => cases hv
  · rintro ⟨hkeys, hvalues⟩
    exact .mapping hkeys hvalues

end Value

/-! ## Rewrites -/

/-- **A rewrite of one field**: a field without a value is left out, or a truth value is written as
the text that it stands for. -/
inductive RespellsField : List (String × Value) → List (String × Value) → Prop
  | absent (before key after) : RespellsField (before ++ (key, .null) :: after) (before ++ after)
  | truth (before key b after) : RespellsField (before ++ (key, .boolean b) :: after)
      (before ++ (key, .string (if b then "true" else "false")) :: after)

/-- **A rewrite of the value of an entity**, there, in an entry to keep, or in a child. -/
inductive Respells : Value → Value → Prop
  | list (items) : Respells (.sequence items) (mappingOf [(childrenKey, .sequence items)])
  | bare (items) : Respells (mappingOf [(childrenKey, .sequence items)]) (.sequence items)
  | null : Respells .null (mappingOf [])
  | empty : Respells (mappingOf []) .null
  | field {fields fields'} : RespellsField fields fields' →
      Respells (mappingOf fields) (mappingOf fields')
  | keep (before first last after) {fields fields'} : RespellsField fields fields' →
      Respells
        (mappingOf (before ++ ("keep", .sequence (first ++ mappingOf fields :: last)) :: after))
        (mappingOf (before ++ ("keep", .sequence (first ++ mappingOf fields' :: last)) :: after))
  | item (first tag last) {v v'} : Respells v v' →
      Respells (.sequence (first ++ mappingOf [(tag, v)] :: last))
        (.sequence (first ++ mappingOf [(tag, v')] :: last))
  | child (before first tag last after) {v v'} : Respells v v' →
      Respells
        (mappingOf (before ++
          (childrenKey, .sequence (first ++ mappingOf [(tag, v)] :: last)) :: after))
        (mappingOf (before ++
          (childrenKey, .sequence (first ++ mappingOf [(tag, v')] :: last)) :: after))

/-- A rewrite of a document: of the value of its root. -/
inductive RespellsDocument : Value → Value → Prop
  | intro (tag) {v v'} : Respells v v' →
    RespellsDocument (mappingOf [(tag, v)]) (mappingOf [(tag, v')])

/-! ## Values stay plain -/

section Plain
variable {before after fields fields' : List (String × Value)} {first last : List Value}
variable {key : String} {v v' : Value}

theorem Value.IsPlain.field (h : (mappingOf (before ++ (key, v) :: after)).IsPlain) :
    v.IsPlain :=
  (isPlain_mappingOf_iff.mp h).2 (key, v) (List.mem_append_right _ List.mem_cons_self)

theorem Value.IsPlain.item (h : (Value.sequence (first ++ v :: last)).IsPlain) : v.IsPlain :=
  isPlain_sequence_iff.mp h v (List.mem_append_right _ List.mem_cons_self)

theorem Value.IsPlain.behindTag {tag : String} (h : (mappingOf [(tag, v)]).IsPlain) : v.IsPlain :=
  (isPlain_mappingOf_iff.mp h).2 (tag, v) List.mem_cons_self

theorem Value.IsPlain.replaceField (h : (mappingOf (before ++ (key, v) :: after)).IsPlain)
    (hv : v.IsPlain → v'.IsPlain) : (mappingOf (before ++ (key, v') :: after)).IsPlain := by
  rw [isPlain_mappingOf_iff, List.forall_mem_append, List.forall_mem_cons] at h ⊢
  obtain ⟨hkeys, hbefore, hfield, hafter⟩ := h
  exact ⟨by simpa using hkeys, hbefore, hv hfield, hafter⟩

theorem Value.IsPlain.replaceItem (h : (Value.sequence (first ++ v :: last)).IsPlain)
    (hv : v.IsPlain → v'.IsPlain) : (Value.sequence (first ++ v' :: last)).IsPlain := by
  rw [isPlain_sequence_iff, List.forall_mem_append, List.forall_mem_cons] at h ⊢
  obtain ⟨hfirst, hitem, hlast⟩ := h
  exact ⟨hfirst, hv hitem, hlast⟩

theorem Value.IsPlain.replaceTagged {tag : String} (h : (mappingOf [(tag, v)]).IsPlain)
    (hv : v.IsPlain → v'.IsPlain) : (mappingOf [(tag, v')]).IsPlain :=
  @Value.IsPlain.replaceField [] [] tag v v' h hv

theorem RespellsField.isPlain (h : RespellsField fields fields')
    (hfields : (mappingOf fields).IsPlain) : (mappingOf fields').IsPlain := by
  cases h with
  | absent before key after =>
    rw [Value.isPlain_mappingOf_iff] at hfields ⊢
    have hsub : (before ++ after).Sublist (before ++ (key, .null) :: after) :=
      (List.sublist_cons_self _ _).append_left _
    exact ⟨hfields.1.sublist (hsub.map _), fun field hfield => hfields.2 _ (hsub.subset hfield)⟩
  | truth before key b after => exact hfields.replaceField fun _ => .string

theorem Respells.isPlain (h : Respells v v') (hv : v.IsPlain) : v'.IsPlain := by
  induction h with
  | list items => simpa using hv
  | bare items => simpa using hv
  | null => simp
  | empty => simp
  | field h => exact h.isPlain hv
  | keep before first last after h =>
    exact hv.replaceField fun hlist => hlist.replaceItem h.isPlain
  | item first tag last _ ih => exact hv.replaceItem fun hitem => hitem.replaceTagged ih
  | child before first tag last after _ ih =>
    exact hv.replaceField fun hlist => hlist.replaceItem fun hitem => hitem.replaceTagged ih

theorem RespellsDocument.isPlain (h : RespellsDocument v v') (hv : v.IsPlain) : v'.IsPlain := by
  obtain ⟨tag, h⟩ := h
  exact hv.replaceTagged h.isPlain

end Plain

/-! ## Rewrites are not seen -/

section Entity
variable {before after fields fields' : List (String × Value)} {first last : List Value}
variable {tag key : String} {v v' : Value}

/-- All that an entity has is looked up among its fields. -/
theorem entity_mappingOf_congr
    (hattr : ∀ name, attributeOf? tag name (fields'.lookup name) =
      attributeOf? tag name (fields.lookup name))
    (hchildren : childrenOf? tag (fields'.lookup childrenKey) =
      childrenOf? tag (fields.lookup childrenKey)) :
    (mappingOf fields').entity tag = (mappingOf fields).entity tag := by
  simp only [mappingOf, Value.entity, childItems_fields, hchildren, Entity.mk.injEq, true_and]
  funext name
  rw [attribute?_fields, attribute?_fields, hattr]

theorem lookup_middle (name : String) : (before ++ (key, v) :: after).lookup name =
    (before.lookup name).or (if name = key then some v else after.lookup name) := by
  rw [List.lookup_append, OrderedMap.lookup_cons]

/-- A field may have any other value that is the same attribute and, if it holds the children, gives
the same ones. -/
theorem entity_replaceField (hattr : attributeOf tag key v' = attributeOf tag key v)
    (hchildren : key = childrenKey → childrenOf? tag (some v') = childrenOf? tag (some v)) :
    (mappingOf (before ++ (key, v') :: after)).entity tag =
      (mappingOf (before ++ (key, v) :: after)).entity tag := by
  refine entity_mappingOf_congr (fun name => ?_) ?_
  · rw [lookup_middle, lookup_middle]
    cases before.lookup name with
    | some w => rfl
    | none =>
      by_cases h : name = key
      · subst h
        simpa [attributeOf?] using hattr
      · simp [h]
  · rw [lookup_middle, lookup_middle]
    cases before.lookup childrenKey with
    | some w => rfl
    | none =>
      by_cases h : childrenKey = key
      · simpa [h] using hchildren h.symm
      · simp [h]

/-- A field without a value may be left out, if its key does not occur again. -/
theorem entity_leaveOut (hkeys : ((before ++ (key, Value.null) :: after).map Prod.fst).Nodup) :
    (mappingOf (before ++ after)).entity tag =
      (mappingOf (before ++ (key, .null) :: after)).entity tag := by
  have hmoved : (((key, Value.null) :: (before ++ after)).map Prod.fst).Nodup :=
    (List.perm_middle.map Prod.fst).nodup_iff.mp hkeys
  have hlookup (name : String) : (before ++ (key, .null) :: after).lookup name =
      if name = key then some .null else (before ++ after).lookup name := by
    rw [OrderedMap.lookup_perm List.perm_middle hmoved, OrderedMap.lookup_cons]
  have hnone : (before ++ after).lookup key = none := by
    rw [List.map_cons, List.nodup_cons, ← OrderedMap.lookup_isSome_iff] at hmoved
    exact Option.not_isSome_iff_eq_none.mp hmoved.1
  refine entity_mappingOf_congr (fun name => ?_) ?_
  · rw [hlookup]
    split
    · rename_i h
      rw [h, hnone]
      rfl
    · rfl
  · rw [hlookup]
    split
    · rename_i h
      rw [h, hnone]
      rfl
    · rfl

theorem RespellsField.entity_eq (h : RespellsField fields fields')
    (hfields : (mappingOf fields).IsPlain) :
    (mappingOf fields').entity tag = (mappingOf fields).entity tag := by
  cases h with
  | absent before key after => exact entity_leaveOut (Value.isPlain_mappingOf_iff.mp hfields).1
  | truth before key b after => exact entity_replaceField rfl fun _ => rfl

/-- The entries of a list may be written in any way that leaves their entities the same. -/
theorem listItems_replace (h : (mappingOf fields').entity key = (mappingOf fields).entity key) :
    listItems tag key (first ++ mappingOf fields' :: last) =
      listItems tag key (first ++ mappingOf fields :: last) := by
  induction first with
  | nil =>
    rw [List.nil_append, List.nil_append, listItems, listItems, h]
    rfl
  | cons item rest ih => rw [List.cons_append, List.cons_append, listItems, listItems, ih]

end Entity

section Items
variable {first last items items' : List Value} {tag : String} {v v' : Value}

theorem taggedItems_cons (item : Value) (rest : List Value) :
    taggedItems (item :: rest) = taggedEntity item >>= fun e => (e :: ·) <$> taggedItems rest := by
  rw [taggedItems]
  rfl

/-- What becomes of the actions of a list when an entity is put in front of it. -/
theorem toActions_map_cons (e : Entity) (list : Except ParseError (List Entity)) :
    Entity.toActions .builtin <$> ((e :: ·) <$> list) =
      (fun actions => e.toAction .builtin >>= fun a => (a :: ·) <$> actions) <$>
        (Entity.toActions .builtin <$> list) := by
  cases list with
  | error err => rfl
  | ok es =>
    refine congrArg Except.ok ?_
    rw [Entity.toActions]
    rfl

/-- Items that are read alike are so behind any others. -/
theorem toActions_taggedItems_append (first : List Value)
    (h : Entity.toActions .builtin <$> taggedItems items' =
      Entity.toActions .builtin <$> taggedItems items) :
    Entity.toActions .builtin <$> taggedItems (first ++ items') =
      Entity.toActions .builtin <$> taggedItems (first ++ items) := by
  induction first with
  | nil => exact h
  | cons item rest ih =>
    rw [List.cons_append, List.cons_append, taggedItems_cons, taggedItems_cons]
    cases taggedEntity item with
    | error err => rfl
    | ok e =>
      show Entity.toActions .builtin <$> ((e :: ·) <$> _) =
        Entity.toActions .builtin <$> ((e :: ·) <$> _)
      rw [toActions_map_cons, toActions_map_cons, ih]

/-- One item may be exchanged for another one whose entity is read alike. -/
theorem toActions_taggedItems_replace (h : (v'.entity tag).ReadAlike (v.entity tag)) :
    Entity.toActions .builtin <$> taggedItems (first ++ mappingOf [(tag, v')] :: last) =
      Entity.toActions .builtin <$> taggedItems (first ++ mappingOf [(tag, v)] :: last) := by
  refine toActions_taggedItems_append first ?_
  have hitem (w : Value) : taggedEntity (mappingOf [(tag, w)]) = .ok (w.entity tag) := rfl
  rw [taggedItems_cons, taggedItems_cons, hitem, hitem]
  show Entity.toActions .builtin <$> ((v'.entity tag :: ·) <$> _) =
    Entity.toActions .builtin <$> ((v.entity tag :: ·) <$> _)
  rw [toActions_map_cons, toActions_map_cons, h.toAction_eq]

end Items

/-- The children are no attribute that is read. -/
theorem ne_childrenKey {name : String} (h : name ∈ attributeNames) : name ≠ childrenKey := by
  rintro rfl
  exact absurd h (by decide)

/-- A list of children is read like the mapping that holds nothing else. -/
theorem readAlike_list (tag : String) (items : List Value) :
    ((mappingOf [(childrenKey, .sequence items)]).entity tag).ReadAlike
      ((Value.sequence items).entity tag) where
  tag := rfl
  attr? name hname := by
    have hnone : [(childrenKey, Value.sequence items)].lookup name = none := by
      rw [OrderedMap.lookup_cons, if_neg (ne_childrenKey hname), List.lookup_nil]
    have hattr := attribute?_fields tag name [(childrenKey, .sequence items)]
    rw [hnone] at hattr
    exact hattr
  inside := by
    have hchildren := childItems_fields tag [(childrenKey, .sequence items)]
    rw [OrderedMap.lookup_cons, if_pos rfl] at hchildren
    exact congrArg (Entity.toActions .builtin <$> ·) hchildren

/-- The field of the children may hold any list whose items are read alike. -/
theorem readAlike_children {tag : String} {before after : List (String × Value)}
    {items items' : List Value}
    (h : Entity.toActions .builtin <$> taggedItems items' =
      Entity.toActions .builtin <$> taggedItems items) :
    ((mappingOf (before ++ (childrenKey, .sequence items') :: after)).entity tag).ReadAlike
      ((mappingOf (before ++ (childrenKey, .sequence items) :: after)).entity tag) where
  tag := rfl
  attr? name hname := by
    have hattr (list : List Value) := attribute?_fields tag name
      (before ++ (childrenKey, .sequence list) :: after)
    simp only [lookup_middle, if_neg (ne_childrenKey hname)] at hattr
    exact (hattr items').trans (hattr items).symm
  inside := by
    have hchildren (list : List Value) := childItems_fields tag
      (before ++ (childrenKey, .sequence list) :: after)
    simp only [lookup_middle, if_true] at hchildren
    show Entity.toActions .builtin <$> childItems tag _ =
      Entity.toActions .builtin <$> childItems tag _
    rw [hchildren, hchildren]
    cases before.lookup childrenKey with
    | some v => rfl
    | none => exact h

/-- **A rewrite is not seen by reading.** -/
theorem Respells.readAlike {v v' : Value} (h : Respells v v') (hv : v.IsPlain) (tag : String) :
    (v'.entity tag).ReadAlike (v.entity tag) := by
  induction h generalizing tag with
  | list items => exact readAlike_list tag items
  | bare items => exact (readAlike_list tag items).symm
  | null => exact .of_eq rfl
  | empty => exact .of_eq rfl
  | field h => exact .of_eq (h.entity_eq hv)
  | keep before first last after h =>
    have hentry := hv.field.item
    refine .of_eq (entity_replaceField ?_ fun hkey => absurd hkey (by decide))
    rw [attributeOf, attributeOf, listItems_replace (h.entity_eq hentry)]
  | item first child last _ ih =>
    have hchild := hv.item.behindTag
    exact ⟨rfl, fun _ _ => rfl, toActions_taggedItems_replace (ih hchild child)⟩
  | child before first child last after _ ih =>
    have hchild := hv.field.item.behindTag
    exact readAlike_children (toActions_taggedItems_replace (ih hchild child))

theorem RespellsDocument.toDescription_eq {v v' : Value} (h : RespellsDocument v v')
    (hv : v.IsPlain) :
    (taggedEntity v' >>= (·.toDescription .builtin)) =
      (taggedEntity v >>= (·.toDescription .builtin)) := by
  obtain ⟨tag, h⟩ := h
  exact (h.readAlike hv.behindTag tag).toDescription_eq

end Yaml

/-- **Spellings are interchangeable.**  Any number of rewrites, of the root or of any entity below
it, leaves the description of a document the same, or the error if it is none. -/
theorem spellings_same {v v' : Yaml.Value} (hv : v.IsPlain)
    (h : Relation.ReflTransGen Yaml.RespellsDocument v v') :
    (Yaml.taggedEntity v' >>= (·.toDescription .builtin)) =
      (Yaml.taggedEntity v >>= (·.toDescription .builtin)) := by
  suffices hboth : v'.IsPlain ∧ (Yaml.taggedEntity v' >>= (·.toDescription .builtin)) =
      (Yaml.taggedEntity v >>= (·.toDescription .builtin)) from hboth.2
  induction h with
  | refl => exact ⟨hv, rfl⟩
  | tail _ hstep ih => exact ⟨hstep.isPlain ih.1, (hstep.toDescription_eq ih.1).trans ih.2⟩

section Spelled
open Yaml

/-- The entry that a reset keeps, with more fields. -/
def robotEntry (more : List (String × Value)) : Value :=
  mappingOf ([("name", .string "robot"), ("value", .string "r2")] ++ more)

/-- A message to the log, with more fields. -/
def goMessage (more : List (String × Value)) : Value :=
  mappingOf [("log", mappingOf ([("message", .string "go")] ++ more))]

/-- A document with children as a list, a truth value, fields without values and an empty
group. -/
def shortSpelling : Value :=
  mappingOf [("launch", .sequence
    [mappingOf [("group", mappingOf
      [("scoped", .boolean false), (childrenKey, .sequence [goMessage [("if", .null)]])])],
    mappingOf [("reset", mappingOf [("keep", .sequence [robotEntry [("note", .null)]])])],
    mappingOf [("group", .null)]])]

/-- The same document in other words. -/
def longSpelling : Value :=
  mappingOf [("launch", mappingOf [(childrenKey, .sequence
    [mappingOf [("group", mappingOf
      [("scoped", .string "false"), (childrenKey, .sequence [goMessage []])])],
    mappingOf [("reset", mappingOf [("keep", .sequence [robotEntry []])])],
    mappingOf [("group", mappingOf [])]])])]

theorem isPlain_shortSpelling : shortSpelling.IsPlain := by
  simp [shortSpelling, goMessage, robotEntry, childrenKey]

/-- Five rewrites lead from the one to the other. -/
theorem respells_spelling : Relation.ReflTransGen RespellsDocument shortSpelling longSpelling := by
  refine .head (.intro "launch" (.list _)) ?_
  refine .head (.intro "launch" (.child [] [] "group" _ [] (.field (.truth [] "scoped" _ _)))) ?_
  refine .head (.intro "launch" (.child [] [] "group" _ [] (.child [("scoped", .string "false")] []
    "log" [] [] (.field (.absent [("message", .string "go")] "if" []))))) ?_
  refine .head (.intro "launch" (.child [] [_] "reset" _ [] (.keep [] [] [] []
    (.absent [("name", .string "robot"), ("value", .string "r2")] "note" [])))) ?_
  exact .single (.intro "launch" (.child [] [_, _] "group" [] [] .null))

theorem spellings_same_short : shortSpelling.IsPlain ∧
    Relation.ReflTransGen RespellsDocument shortSpelling longSpelling ∧
    (taggedEntity longSpelling >>= (·.toDescription .builtin)) =
      (taggedEntity shortSpelling >>= (·.toDescription .builtin)) ∧
    (taggedEntity shortSpelling >>= (·.toDescription .builtin)).isOk = true :=
  ⟨isPlain_shortSpelling, respells_spelling, spellings_same isPlain_shortSpelling respells_spelling,
    by decide +kernel⟩

end Spelled

end LaunchPlan
