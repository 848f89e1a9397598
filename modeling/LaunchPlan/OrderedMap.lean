/-! # Ordered maps

A map from names to values that remembers the order in which its names were
first set.  Setting a name again keeps its place, erasing a name closes the gap,
and setting an erased name puts it at the end.  `keys_insert` and `keys_erase`
say what happens to the order, `get?_insert` and `get?_erase` what happens to
the values.
-/
namespace LaunchPlan

/-- A finite map with names in the order in which they were first set. -/
structure OrderedMap (α : Type) where
  /-- The entries, oldest name first. -/
  entries : List (String × α)
  /-- No name occurs twice. -/
  nodup : (entries.map Prod.fst).Nodup

namespace OrderedMap

variable {α : Type}

@[ext] theorem ext {m n : OrderedMap α} (h : m.entries = n.entries) : m = n := by
  cases m; cases n; cases h; rfl

instance [DecidableEq α] : DecidableEq (OrderedMap α) := fun m n =>
  decidable_of_iff (m.entries = n.entries) ⟨ext, fun h => h ▸ rfl⟩

/-- The map without names. -/
def empty : OrderedMap α := ⟨[], List.nodup_nil⟩

instance : Inhabited (OrderedMap α) := ⟨empty⟩

/-- The names, oldest first. -/
def keys (m : OrderedMap α) : List String := m.entries.map Prod.fst

/-- The number of names. -/
def size (m : OrderedMap α) : Nat := m.entries.length

/-- The value of a name, if the map has it. -/
def get? (m : OrderedMap α) (k : String) : Option α := m.entries.lookup k

/-- Whether the map has a name. -/
def contains (m : OrderedMap α) (k : String) : Bool := (m.get? k).isSome

/-- Sets the value of `k` in a list of entries: in place if `k` is there, at the
end otherwise. -/
def setEntry (k : String) (v : α) : List (String × α) → List (String × α)
  | [] => [(k, v)]
  | e :: rest => if e.1 = k then (k, v) :: rest else e :: setEntry k v rest

theorem map_fst_setEntry (k : String) (v : α) (l : List (String × α)) :
    (setEntry k v l).map Prod.fst =
      if k ∈ l.map Prod.fst then l.map Prod.fst else l.map Prod.fst ++ [k] := by
  induction l with
  | nil => simp [setEntry]
  | cons e rest ih =>
    by_cases h : e.1 = k
    · simp [setEntry, h]
    · have h' : k ≠ e.1 := fun he => h he.symm
      simp only [setEntry, h, if_false, List.map_cons, ih, List.mem_cons, h', false_or]
      split <;> simp

theorem nodup_setEntry (k : String) (v : α) {l : List (String × α)}
    (h : (l.map Prod.fst).Nodup) : ((setEntry k v l).map Prod.fst).Nodup := by
  rw [map_fst_setEntry]
  split
  · exact h
  · rename_i hk
    refine List.nodup_append.mpr ⟨h, by simp, ?_⟩
    intro a ha b hb hab
    rw [List.mem_singleton.mp hb] at hab
    exact hk (hab ▸ ha)

/-- Sets the value of a name; a name that is already there keeps its place. -/
def insert (m : OrderedMap α) (k : String) (v : α) : OrderedMap α :=
  ⟨setEntry k v m.entries, nodup_setEntry k v m.nodup⟩

/-- Removes a name; the names after it move up. -/
def erase (m : OrderedMap α) (k : String) : OrderedMap α :=
  ⟨m.entries.filter (fun e => e.1 ≠ k),
    m.nodup.sublist ((List.filter_sublist (l := m.entries)).map Prod.fst)⟩

/-- The map that results from setting the pairs one after the other. -/
def ofList (l : List (String × α)) : OrderedMap α :=
  l.foldl (fun m e => m.insert e.1 e.2) empty

/-! ## What the operations do to values and order -/

@[simp] theorem keys_empty : (empty : OrderedMap α).keys = [] := rfl

@[simp] theorem get?_empty (k : String) : (empty : OrderedMap α).get? k = none := rfl

theorem nodup_keys (m : OrderedMap α) : m.keys.Nodup := m.nodup

theorem lookup_cons (x : String) (e : String × α) (l : List (String × α)) :
    (e :: l).lookup x = if x = e.1 then some e.2 else l.lookup x := by
  rw [List.lookup_cons]
  by_cases h : x = e.1
  · simp [h]
  · have hb : (x == e.1) = false := by simpa using h
    simp [h, hb]

theorem lookup_setEntry (k : String) (v : α) (l : List (String × α)) (x : String) :
    (setEntry k v l).lookup x = if x = k then some v else l.lookup x := by
  induction l with
  | nil => simp [setEntry, lookup_cons]
  | cons e rest ih =>
    by_cases h : e.1 = k
    · simp only [setEntry, h, if_true, lookup_cons]
      by_cases hx : x = k <;> simp [hx]
    · simp only [setEntry, h, if_false, lookup_cons, ih]
      by_cases hx : x = k
      · have hne : ¬ k = e.1 := fun he => h he.symm
        simp [hx, hne]
      · simp [hx]

theorem get?_insert (m : OrderedMap α) (k : String) (v : α) (x : String) :
    (m.insert k v).get? x = if x = k then some v else m.get? x :=
  lookup_setEntry k v m.entries x

theorem lookup_filter_ne (k : String) (l : List (String × α)) (x : String) :
    (l.filter (fun e => e.1 ≠ k)).lookup x = if x = k then none else l.lookup x := by
  induction l with
  | nil => simp
  | cons e rest ih =>
    by_cases h : e.1 = k
    · rw [List.filter_cons_of_neg (by simp [h]), ih, lookup_cons]
      by_cases hx : x = k
      · simp [hx]
      · simp [hx, h]
    · rw [List.filter_cons_of_pos (by simp [h]), lookup_cons, lookup_cons, ih]
      by_cases hx : x = k
      · have hne : ¬ k = e.1 := fun he => h he.symm
        simp [hx, hne]
      · simp [hx]

theorem get?_erase (m : OrderedMap α) (k x : String) :
    (m.erase k).get? x = if x = k then none else m.get? x :=
  lookup_filter_ne k m.entries x

theorem keys_insert (m : OrderedMap α) (k : String) (v : α) :
    (m.insert k v).keys = if k ∈ m.keys then m.keys else m.keys ++ [k] :=
  map_fst_setEntry k v m.entries

theorem keys_erase (m : OrderedMap α) (k : String) :
    (m.erase k).keys = m.keys.filter (fun x => x ≠ k) := by
  simp only [keys, erase, List.filter_map]
  rfl

theorem lookup_isSome_iff (l : List (String × α)) (k : String) :
    (l.lookup k).isSome ↔ k ∈ l.map Prod.fst := by
  induction l with
  | nil => simp
  | cons e rest ih =>
    rw [lookup_cons]
    by_cases h : k = e.1
    · simp [h]
    · simp only [h, if_false, ih, List.map_cons, List.mem_cons, false_or]

theorem contains_iff_mem_keys (m : OrderedMap α) (k : String) :
    m.contains k = true ↔ k ∈ m.keys :=
  lookup_isSome_iff m.entries k

/-! ## Entries in any order -/

theorem lookup_eq_some_iff {l : List (String × α)} (hl : (l.map Prod.fst).Nodup) {name : String}
    {a : α} : l.lookup name = some a ↔ (name, a) ∈ l := by
  induction l with
  | nil => simp
  | cons entry l ih =>
    obtain ⟨key, b⟩ := entry
    rw [List.map_cons, List.nodup_cons] at hl
    rw [lookup_cons, List.mem_cons, Prod.mk.injEq]
    by_cases h : name = key
    · subst h
      have hmem : (name, a) ∉ l := fun hmem =>
        have hkey : name ∈ l.map Prod.fst := List.mem_map_of_mem (f := Prod.fst) hmem
        hl.1 hkey
      simp [hmem, eq_comm]
    · simp [h, ih hl.2]

/-- The order of the entries does not matter for the values. -/
theorem lookup_perm {l l' : List (String × α)} (h : l.Perm l') (hl : (l'.map Prod.fst).Nodup)
    (name : String) : l.lookup name = l'.lookup name := by
  have hnodup : (l.map Prod.fst).Nodup := (h.map _).nodup_iff.mpr hl
  ext a
  rw [lookup_eq_some_iff hnodup, lookup_eq_some_iff hl, h.mem_iff]

theorem get?_eq_some_iff {m : OrderedMap α} {name : String} {a : α} :
    m.get? name = some a ↔ (name, a) ∈ m.entries :=
  lookup_eq_some_iff m.nodup

theorem get?_eq_none_iff {m : OrderedMap α} {name : String} :
    m.get? name = none ↔ name ∉ m.keys := by
  rw [← contains_iff_mem_keys, contains, Option.not_isSome_iff_eq_none]

theorem mem_keys_of_get? {m : OrderedMap α} {name : String} {a : α} (h : m.get? name = some a) :
    name ∈ m.keys := by
  rw [← contains_iff_mem_keys, contains, h]
  rfl

/-! ## New names go to the end -/

theorem setEntry_of_not_mem {k : String} {v : α} {l : List (String × α)}
    (h : k ∉ l.map Prod.fst) : setEntry k v l = l ++ [(k, v)] := by
  induction l with
  | nil => rfl
  | cons e rest ih =>
    rw [List.map_cons, List.mem_cons, not_or] at h
    rw [setEntry, if_neg fun he => h.1 he.symm, ih h.2, List.cons_append]

theorem entries_insert_of_not_mem {m : OrderedMap α} {k : String} {v : α} (h : k ∉ m.keys) :
    (m.insert k v).entries = m.entries ++ [(k, v)] :=
  setEntry_of_not_mem h

theorem entries_foldl_insert {l : List (String × α)} {m : OrderedMap α}
    (h : (m.keys ++ l.map Prod.fst).Nodup) :
    (l.foldl (fun m e => m.insert e.1 e.2) m).entries = m.entries ++ l := by
  induction l generalizing m with
  | nil => rw [List.foldl_nil, List.append_nil]
  | cons e rest ih =>
    have hnew : e.1 ∉ m.keys := fun hmem =>
      (List.nodup_append.mp h).2.2 _ hmem _ List.mem_cons_self rfl
    have hkeys : (m.insert e.1 e.2).keys = m.keys ++ [e.1] := by rw [keys_insert, if_neg hnew]
    rw [List.foldl_cons, ih, entries_insert_of_not_mem hnew, List.append_assoc]
    · rfl
    · rw [hkeys, List.append_assoc]
      exact h

/-- Entries with different names are set in their order. -/
theorem entries_ofList {l : List (String × α)} (h : (l.map Prod.fst).Nodup) :
    (ofList l).entries = l := by
  have hnodup : ((empty : OrderedMap α).keys ++ l.map Prod.fst).Nodup := h
  exact entries_foldl_insert hnodup

/-- Setting the entries of a map one after the other gives the map. -/
theorem ofList_entries (m : OrderedMap α) : ofList m.entries = m :=
  ext (entries_ofList m.nodup)

/-! ## Entries set one after the other -/

theorem get?_foldl_insert (l : List (String × α)) (m : OrderedMap α) (x : String) :
    (l.foldl (fun m e => m.insert e.1 e.2) m).get? x = (l.reverse.lookup x).or (m.get? x) := by
  induction l generalizing m with
  | nil => rfl
  | cons e rest ih =>
    rw [List.foldl_cons, ih, List.reverse_cons, List.lookup_append, Option.or_assoc, get?_insert,
      lookup_cons]
    split <;> rfl

theorem keys_foldl_insert (l : List (String × α)) (m : OrderedMap α) :
    (l.foldl (fun m e => m.insert e.1 e.2) m).keys =
      m.keys ++ ((l.map Prod.fst).filter (· ∉ m.keys)).eraseDups := by
  induction l generalizing m with
  | nil => simp
  | cons e rest ih =>
    rw [List.foldl_cons, ih, keys_insert, List.map_cons]
    by_cases h : e.1 ∈ m.keys
    · rw [if_pos h, List.filter_cons_of_neg (by simpa using h)]
    · -- the new name is passed over from here on
      rw [if_neg h, List.filter_cons_of_pos (by simpa using h), List.eraseDups_cons,
        List.filter_filter, List.append_assoc, List.singleton_append]
      simp [Bool.and_comm, Bool.beq_eq_decide_eq]

/-- The value of a name is that of its last entry. -/
theorem get?_ofList (l : List (String × α)) (x : String) :
    (ofList l).get? x = l.reverse.lookup x := by
  rw [ofList, get?_foldl_insert, get?_empty, Option.or_none]

/-- The names stand in the order of their first entries. -/
theorem keys_ofList (l : List (String × α)) : (ofList l).keys = (l.map Prod.fst).eraseDups := by
  have hall : (l.map Prod.fst).filter (· ∉ (empty : OrderedMap α).keys) = l.map Prod.fst :=
    List.filter_eq_self.mpr fun _ _ => by simp
  rw [ofList, keys_foldl_insert, hall]
  rfl

end OrderedMap
end LaunchPlan
