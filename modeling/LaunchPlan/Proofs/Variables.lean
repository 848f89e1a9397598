import Mathlib.Data.List.Induction
import LaunchPlan.Proofs.Atomic

/-! # The environment after any sets and unsets

A name that is set again keeps its place, and one that is unset loses it.  So where a name stands,
and with which value, depends on all that was done before.  This module says how.

The last operation on a name decides whether the name is there and with which value
(`Context.get?_afterEdits_iff`).  Its place is decided by the operation with which its present life
began, the first set that no unset follows (`VariableEdit.BeginsAfter`).  There is exactly one for
every name that is there, no later operation changes it unless the name is unset, and the names are
listed in the order of these beginnings (`Context.keys_afterEdits_pairwise`).
-/
namespace LaunchPlan

/-! ## Operations on the environment -/

/-- An operation on the environment. -/
inductive VariableEdit where
  | set (name value : String)
  | unset (name : String)

namespace VariableEdit

/-- The name that is set or unset. -/
def name : VariableEdit → String
  | set name _ => name
  | unset name => name

/-- The last operation on a name. -/
def lastOn? (name : String) (history : List VariableEdit) : Option VariableEdit :=
  history.reverse.find? (·.name == name)

/-- The last operation on a name was to set it. -/
def EndsSet (name : String) (history : List VariableEdit) : Prop :=
  ∃ value, lastOn? name history = some (set name value)

/-- **The present life of a name** began when all of `before` was done: the name was set then and
has not been unset since, and it had not been there. -/
def BeginsAfter (history : List VariableEdit) (name : String) (before : List VariableEdit) : Prop :=
  ∃ value later, history = before ++ set name value :: later ∧ unset name ∉ later ∧
    ¬ EndsSet name before

section
variable {name : String} {history before : List VariableEdit} {e : VariableEdit}

theorem lastOn?_concat (name : String) (history : List VariableEdit) (e : VariableEdit) :
    lastOn? name (history ++ [e]) = if e.name = name then some e else lastOn? name history := by
  rw [lastOn?, List.reverse_concat, List.find?_cons]
  split <;> simp_all [lastOn?]

theorem endsSet_concat_iff :
    EndsSet name (history ++ [e]) ↔ (∃ value, e = set name value) ∨
      (e.name ≠ name ∧ EndsSet name history) := by
  rw [EndsSet, lastOn?_concat]
  by_cases h : e.name = name
  · simp [h]
  · have hset : ∀ value, e ≠ set name value := fun value heq => h (heq ▸ rfl)
    simp [h, hset, EndsSet]

/-- A name is there as long as it is not unset. -/
theorem endsSet_append {value : String} {later : List VariableEdit} (h : unset name ∉ later) :
    EndsSet name (history ++ set name value :: later) := by
  induction later using List.reverseRecOn with
  | nil => exact endsSet_concat_iff.mpr (Or.inl ⟨value, rfl⟩)
  | append_singleton later e ih =>
    rw [List.mem_append, List.mem_singleton, not_or] at h
    rw [← List.cons_append, ← List.append_assoc, endsSet_concat_iff]
    cases e with
    | set k v =>
      by_cases hk : k = name
      · exact Or.inl ⟨v, by rw [hk]⟩
      · exact Or.inr ⟨hk, ih h.1⟩
    | unset k =>
      have hk : k ≠ name := fun heq => h.2 (by rw [heq])
      exact Or.inr ⟨hk, ih h.1⟩

/-! ## The present life of a name -/

theorem BeginsAfter.length_lt (h : BeginsAfter history name before) :
    before.length < history.length := by
  obtain ⟨value, later, rfl, -, -⟩ := h
  simp

/-- A life goes on as long as the name is not unset. -/
theorem BeginsAfter.concat (h : BeginsAfter history name before) (he : e ≠ unset name) :
    BeginsAfter (history ++ [e]) name before := by
  obtain ⟨value, later, rfl, hlater, hbefore⟩ := h
  refine ⟨value, later ++ [e], by simp, ?_, hbefore⟩
  rw [List.mem_append, List.mem_singleton, not_or]
  exact ⟨hlater, he.symm⟩

/-- A name that is set while it is not there begins to live. -/
theorem beginsAfter_concat (h : ¬ EndsSet name history) (value : String) :
    BeginsAfter (history ++ [set name value]) name history :=
  ⟨value, [], rfl, List.not_mem_nil, h⟩

theorem exists_beginsAfter (h : EndsSet name history) :
    ∃ before, BeginsAfter history name before := by
  induction history using List.reverseRecOn with
  | nil => obtain ⟨value, h⟩ := h; cases h
  | append_singleton history e ih =>
    rcases endsSet_concat_iff.mp h with ⟨value, rfl⟩ | ⟨hne, h⟩
    · by_cases hset : EndsSet name history
      · obtain ⟨before, hbefore⟩ := ih hset
        exact ⟨before, hbefore.concat nofun⟩
      · exact ⟨history, beginsAfter_concat hset value⟩
    · obtain ⟨before, hbefore⟩ := ih h
      exact ⟨before, hbefore.concat fun heq => hne (heq ▸ rfl)⟩

/-- A life does not begin while another one lasts. -/
theorem BeginsAfter.length_le {before' : List VariableEdit} (h : BeginsAfter history name before)
    (h' : BeginsAfter history name before') : before'.length ≤ before.length := by
  obtain ⟨value, later, heq, hlater, -⟩ := h
  obtain ⟨value', later', heq', -, habsent⟩ := h'
  by_contra hlt
  -- the later beginning comes after the set of the earlier one
  obtain ⟨rest, hbefore, hrest⟩ | ⟨rest, hbefore, hrest⟩ :=
    List.append_eq_append_iff.mp (heq.symm.trans heq')
  · cases rest with
    | nil => simp [hbefore] at hlt
    | cons e mid =>
      rw [List.cons_append, List.cons.injEq] at hrest
      obtain ⟨rfl, rfl⟩ := hrest
      rw [hbefore] at habsent
      exact habsent (endsSet_append fun hmem => hlater (List.mem_append_left _ hmem))
  · simp [hbefore] at hlt

theorem BeginsAfter.unique {before' : List VariableEdit} (h : BeginsAfter history name before)
    (h' : BeginsAfter history name before') : before = before' := by
  have hlength : before.length = before'.length := Nat.le_antisymm (h'.length_le h) (h.length_le h')
  obtain ⟨value, later, heq, -, -⟩ := h
  obtain ⟨value', later', heq', -, -⟩ := h'
  exact List.append_inj_left (heq.symm.trans heq') hlength

/-- What was there before an operation, and was not unset, lives since when it lived. -/
theorem BeginsAfter.of_concat (h : BeginsAfter (history ++ [e]) name before)
    (hset : EndsSet name history) (he : e ≠ unset name) : BeginsAfter history name before := by
  obtain ⟨before', hbefore⟩ := exists_beginsAfter hset
  rw [h.unique (hbefore.concat he)]
  exact hbefore

end
end VariableEdit

/-! ## The context after some operations -/

namespace Context
open VariableEdit

/-- The call that sets a name or unsets it.  Unsetting answers with the value that the name had. -/
def editVariables (c : Context) : VariableEdit → Context × Option String
  | .set name value => (c.setVariable name value, none)
  | .unset name => (c.unsetVariable name, c.environment.get? name)

/-- The context after some calls. -/
def afterEdits (c : Context) (history : List VariableEdit) : Context :=
  history.foldl (fun c e => (c.editVariables e).1) c

theorem afterEdits_concat (c : Context) (history : List VariableEdit) (e : VariableEdit) :
    c.afterEdits (history ++ [e]) = ((c.afterEdits history).editVariables e).1 := by
  rw [afterEdits, List.foldl_append]
  rfl

/-- A context with nothing in it. -/
def blank : Context := ofEnvironment .empty

/-- **The last operation on a name decides** whether it is there, and with which value. -/
theorem get?_afterEdits_iff {name value : String} (history : List VariableEdit) :
    (blank.afterEdits history).environment.get? name = some value ↔
      lastOn? name history = some (.set name value) := by
  induction history using List.reverseRecOn with
  | nil => exact ⟨nofun, nofun⟩
  | append_singleton history e ih =>
    rw [afterEdits_concat, lastOn?_concat]
    cases e with
    | set k v =>
      rw [editVariables, setVariable, OrderedMap.get?_insert, VariableEdit.name]
      by_cases h : name = k
      · subst h
        simp
      · rw [if_neg h, if_neg (Ne.symm h), ih]
    | unset k =>
      rw [editVariables, unsetVariable, OrderedMap.get?_erase, VariableEdit.name]
      by_cases h : name = k
      · subst h
        simp
      · rw [if_neg h, if_neg (Ne.symm h), ih]

theorem mem_keys_afterEdits_iff {name : String} (history : List VariableEdit) :
    name ∈ (blank.afterEdits history).environment.keys ↔ EndsSet name history := by
  rw [← OrderedMap.contains_iff_mem_keys, OrderedMap.contains, Option.isSome_iff_exists]
  exact exists_congr fun _ => get?_afterEdits_iff history

/-- The present life of one name began before that of another. -/
def BeginsBefore (history : List VariableEdit) (a b : String) : Prop :=
  ∀ s t, BeginsAfter history a s → BeginsAfter history b t → s.length < t.length

/-- **The names stand in the order in which their present lives began.** -/
theorem keys_afterEdits_pairwise (history : List VariableEdit) :
    (blank.afterEdits history).environment.keys.Pairwise (BeginsBefore history) := by
  induction history using List.reverseRecOn with
  | nil => exact .nil
  | append_singleton history e ih =>
    -- names that were there and stay keep their order
    have hstay : ∀ {a b}, a ∈ (blank.afterEdits history).environment.keys →
        b ∈ (blank.afterEdits history).environment.keys → e ≠ .unset a → e ≠ .unset b →
        BeginsBefore history a b → BeginsBefore (history ++ [e]) a b := by
      intro a b ha hb hea heb hab s t hs ht
      exact hab s t (hs.of_concat ((mem_keys_afterEdits_iff history).mp ha) hea)
        (ht.of_concat ((mem_keys_afterEdits_iff history).mp hb) heb)
    rw [afterEdits_concat]
    cases e with
    | set k v =>
      have hkept := ih.imp_of_mem fun ha hb => hstay ha hb nofun nofun
      rw [editVariables, setVariable, OrderedMap.keys_insert]
      split
      · exact hkept
      · rename_i hnew
        refine List.pairwise_append.mpr ⟨hkept, List.pairwise_singleton _ _, ?_⟩
        intro a ha b hb s t hs ht
        rw [List.mem_singleton.mp hb] at ht
        have hs' := hs.of_concat ((mem_keys_afterEdits_iff history).mp ha) nofun
        rw [mem_keys_afterEdits_iff] at hnew
        rw [ht.unique (beginsAfter_concat hnew v)]
        exact hs'.length_lt
    | unset k =>
      rw [editVariables, unsetVariable, OrderedMap.keys_erase]
      refine (ih.filter _).imp_of_mem fun {a b} ha hb => ?_
      rw [List.mem_filter, decide_eq_true_iff] at ha hb
      refine hstay ha.1 hb.1 (fun heq => ?_) (fun heq => ?_)
      · cases heq
        exact ha.2 rfl
      · cases heq
        exact hb.2 rfl

/-- A name that is set again keeps its place, but not one that was unset in between. -/
example : (blank.afterEdits [.set "a" "1", .set "b" "2", .set "c" "3", .set "b" "4", .unset "a",
    .set "a" "5"]).environment.entries = [("b", "4"), ("c", "3"), ("a", "5")] := by
  cbv

/-- **The environment is what its history makes of it.**

* `value`, `present`: the last operation on a name decides whether the name is there, and with which
  value.
* `began`, `order`: every name that is there has one operation with which its present life began,
  the first set after its last unset, and the names stand in the order of these.
* `nodup`: no name is listed twice.
* `answer`, `removal`: one more unset answers with the value that the name had, if it had one, and
  takes the name away without moving any other. -/
structure FollowsHistory (history : List VariableEdit) : Prop where
  value : ∀ name value, (blank.afterEdits history).environment.get? name = some value ↔
    lastOn? name history = some (.set name value)
  present : ∀ name, name ∈ (blank.afterEdits history).environment.keys ↔ EndsSet name history
  began : ∀ name ∈ (blank.afterEdits history).environment.keys,
    ∃! before, BeginsAfter history name before
  order : (blank.afterEdits history).environment.keys.Pairwise (BeginsBefore history)
  nodup : (blank.afterEdits history).environment.keys.Nodup
  answer : ∀ name value, ((blank.afterEdits history).editVariables (.unset name)).2 = some value ↔
    lastOn? name history = some (.set name value)
  removal : ∀ name, OrderedMap.RemovesFrom name (blank.afterEdits history).environment
    ((blank.afterEdits history).editVariables (.unset name)).1.environment

end Context

/-- **The environment is what its history makes of it**, after any sets and unsets. -/
theorem environment_follows_history (history : List VariableEdit) :
    Context.FollowsHistory history where
  value := fun _ _ => Context.get?_afterEdits_iff history
  present := fun _ => Context.mem_keys_afterEdits_iff history
  began := by
    intro name hname
    obtain ⟨before, hbefore⟩ :=
      VariableEdit.exists_beginsAfter ((Context.mem_keys_afterEdits_iff history).mp hname)
    exact ⟨before, hbefore, fun _ h => h.unique hbefore⟩
  order := Context.keys_afterEdits_pairwise history
  nodup := OrderedMap.nodup_keys _
  answer := fun _ _ => Context.get?_afterEdits_iff history
  removal := fun name => OrderedMap.removesFrom_erase _ name

end LaunchPlan
