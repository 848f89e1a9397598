import Mathlib
import LaunchPlan.Proofs.History
import LaunchPlan.Report.Basic

/-! # The difference of two environments

A report tells what a run changed in the environment, not what it did: a variable that was removed
and set again to its old value has not changed.  `EnvironmentPatch.between` compares the two ends,
and this module says that it compares them well.

What a patch does is told name by name (`EnvironmentPatch.get?_apply`): a name that is set has the
new value, any other that is removed has none, and all others have the old value.  From this the
difference is exact (`get?_apply_between`), and whatever patch leads from the one environment to the
other has to set and to remove at least as much (`set_subset`, `unset_subset`).
-/
namespace LaunchPlan

namespace OrderedMap
variable {α : Type}

/-- The maps have the same names with the same values, in any order. -/
def Matches (m n : OrderedMap α) : Prop := ∀ name, n.get? name = m.get? name

theorem get?_foldl_erase (names : List String) (m : OrderedMap α) (x : String) :
    (names.foldl erase m).get? x = if x ∈ names then none else m.get? x := by
  induction names generalizing m with
  | nil => simp
  | cons name rest ih =>
    rw [List.foldl_cons, ih, get?_erase]
    by_cases h : x = name
    · simp [h]
    · simp [h]

end OrderedMap

namespace EnvironmentPatch
variable {before after : OrderedMap String} {p : EnvironmentPatch} {name value : String}

/-- **What a patch does to a name.** -/
theorem get?_apply (p : EnvironmentPatch) (m : OrderedMap String) (name : String) :
    (p.apply m).get? name =
      (p.set.get? name).or (if name ∈ p.unset then none else m.get? name) := by
  have hlast : p.set.entries.reverse.lookup name = p.set.get? name :=
    OrderedMap.lookup_perm (List.reverse_perm _) p.set.nodup name
  rw [apply, OrderedMap.get?_foldl_insert, OrderedMap.get?_foldl_erase, hlast]

theorem entries_set_between (before after : OrderedMap String) :
    (between before after).set.entries =
      after.entries.filter fun e => before.get? e.1 != some e.2 :=
  OrderedMap.entries_ofList <|
    after.nodup.sublist (List.filter_sublist.map Prod.fst)

theorem mem_set_between : (name, value) ∈ (between before after).set.entries ↔
    after.get? name = some value ∧ before.get? name ≠ some value := by
  rw [entries_set_between, List.mem_filter, OrderedMap.get?_eq_some_iff, bne_iff_ne]

theorem mem_unset_between : name ∈ (between before after).unset ↔
    name ∈ before.keys ∧ name ∉ after.keys := by
  rw [between, List.mem_filter, Bool.not_eq_true', ← OrderedMap.contains_iff_mem_keys after,
    Bool.not_eq_true]

/-- **The difference is exact**: it makes the second environment of the first. -/
theorem get?_apply_between (before after : OrderedMap String) :
    after.Matches ((between before after).apply before) := by
  intro name
  rw [get?_apply]
  cases hset : (between before after).set.get? name with
  | some value =>
    rw [OrderedMap.get?_eq_some_iff, mem_set_between] at hset
    exact hset.1.symm
  | none =>
    have hset' : ∀ value, after.get? name = some value → before.get? name = some value := by
      intro value hvalue
      refine Decidable.byContradiction fun hne => ?_
      rw [OrderedMap.get?_eq_some_iff.mpr (mem_set_between.mpr ⟨hvalue, hne⟩)] at hset
      cases hset
    rw [Option.none_or]
    cases hafter : after.get? name with
    | some value =>
      have hunset : name ∉ (between before after).unset := fun h =>
        (mem_unset_between.mp h).2 (OrderedMap.mem_keys_of_get? hafter)
      rw [if_neg hunset, hset' value hafter]
    | none =>
      have habsent : name ∉ after.keys := OrderedMap.get?_eq_none_iff.mp hafter
      by_cases hbefore : name ∈ before.keys
      · rw [if_pos (mem_unset_between.mpr ⟨hbefore, habsent⟩)]
      · rw [OrderedMap.get?_eq_none_iff.mpr hbefore, ite_self]

/-! ## The least patch -/

/-- Any patch to the same effect sets what the difference sets. -/
theorem set_subset (h : after.Matches (p.apply before)) :
    (between before after).set.entries ⊆ p.set.entries := by
  rintro ⟨name, value⟩ he
  obtain ⟨hafter, hbefore⟩ := mem_set_between.mp he
  have hname := h name
  rw [get?_apply, hafter] at hname
  cases hset : p.set.get? name with
  | some v =>
    rw [hset, Option.some_or, Option.some.injEq] at hname
    exact OrderedMap.get?_eq_some_iff.mp (hname ▸ hset)
  | none =>
    -- what is not set has no value or the old one
    rw [hset, Option.none_or] at hname
    split at hname
    · cases hname
    · exact absurd hname hbefore

/-- Any patch to the same effect removes what the difference removes. -/
theorem unset_subset (h : after.Matches (p.apply before)) :
    (between before after).unset ⊆ p.unset := by
  intro name hunset
  obtain ⟨hbefore, hafter⟩ := mem_unset_between.mp hunset
  have hname := h name
  rw [get?_apply, OrderedMap.get?_eq_none_iff.mpr hafter, Option.or_eq_none_iff] at hname
  refine Decidable.byContradiction fun hkept => ?_
  rw [if_neg hkept] at hname
  exact OrderedMap.get?_eq_none_iff.mp hname.2 hbefore

theorem between_eq_empty_iff : (between before after).set.entries = [] ∧
    (between before after).unset = [] ↔ before.Matches after := by
  constructor
  · rintro ⟨hset, hunset⟩ name
    have hempty : (between before after).set = .empty := OrderedMap.ext hset
    rw [← get?_apply_between before after name, get?_apply, hempty, hunset]
    rfl
  · intro h
    have hnone : after.Matches (empty.apply before) := fun name => (h name).symm
    exact ⟨List.subset_nil.mp (set_subset hnone), List.subset_nil.mp (unset_subset hnone)⟩

end EnvironmentPatch

/-- **The patch leads from the one environment to the other, and is the least that does.**

* `values`: removing and then setting gives every name the value of the second environment.
* `disjoint`: no name is both removed and set.
* `removed`, `changed`: what is removed was there and is no longer; what is set is new or had
  another value.
* `set_order`, `unset_order`: names are set in the order of the second environment and removed in
  the order of the first.
* `empty_iff`: there is nothing to do exactly if the two have the same values.
* `least`: a patch to the same effect does all that this one does. -/
structure EnvironmentPatch.IsDifference (p : EnvironmentPatch)
    (before after : OrderedMap String) : Prop where
  values : after.Matches (p.apply before)
  disjoint : ∀ name ∈ p.unset, name ∉ p.set.keys
  removed : ∀ name ∈ p.unset, name ∈ before.keys ∧ name ∉ after.keys
  changed : ∀ e ∈ p.set.entries, after.get? e.1 = some e.2 ∧ before.get? e.1 ≠ some e.2
  set_order : p.set.entries.Sublist after.entries
  unset_order : p.unset.Sublist before.keys
  empty_iff : p.set.entries = [] ∧ p.unset = [] ↔ before.Matches after
  least : ∀ q : EnvironmentPatch, after.Matches (q.apply before) →
    p.set.entries ⊆ q.set.entries ∧ p.unset ⊆ q.unset

namespace EnvironmentPatch

theorem isDifference_between (before after : OrderedMap String) :
    (between before after).IsDifference before after where
  values := get?_apply_between before after
  disjoint := by
    intro name hunset hset
    obtain ⟨⟨_, value⟩, he, rfl⟩ := List.mem_map.mp hset
    exact (mem_unset_between.mp hunset).2 (OrderedMap.mem_keys_of_get? (mem_set_between.mp he).1)
  removed := fun _ h => mem_unset_between.mp h
  changed := fun _ h => mem_set_between.mp h
  set_order := by
    rw [entries_set_between]
    exact List.filter_sublist
  unset_order := List.filter_sublist
  empty_iff := between_eq_empty_iff
  least := fun _ h => ⟨set_subset h, unset_subset h⟩

/-- What has its old value at the end is not mentioned. -/
theorem IsDifference.not_mentioned {p : EnvironmentPatch} {before after : OrderedMap String}
    {name : String} (h : p.IsDifference before after)
    (hname : after.get? name = before.get? name) : name ∉ p.set.keys ∧ name ∉ p.unset := by
  refine ⟨fun hset => ?_, fun hunset => ?_⟩
  · obtain ⟨⟨_, value⟩, he, rfl⟩ := List.mem_map.mp hset
    obtain ⟨hafter, hbefore⟩ := h.changed _ he
    exact hbefore (hname ▸ hafter)
  · obtain ⟨hbefore, hafter⟩ := h.removed name hunset
    rw [← OrderedMap.get?_eq_none_iff, hname, OrderedMap.get?_eq_none_iff] at hafter
    exact hafter hbefore

end EnvironmentPatch

namespace Service
variable {s t : Service} {d : Description} {o : Outcome}

/-- The report of a run compares the environment before the run with the one that it leaves. -/
theorem changes_of_run (h : s.run d = (t, .ok o)) :
    (Report.ofOutcome o s.context.environment).changes =
      .between s.context.environment t.context.environment := by
  obtain ⟨u, r, -, ⟨err, -, herr⟩ | ⟨x, -, -, hrun⟩⟩ := s.run_cases d
  · rw [herr] at h
    cases h
  · rw [hrun] at h
    cases h
    rfl

end Service

/-- **The report tells the change of the environment, exactly and no more**, whatever happened in
between: a variable that has its old value at the end is not mentioned. -/
theorem report_changes (before after : OrderedMap String) :
    (EnvironmentPatch.between before after).IsDifference before after ∧
      ∀ (s t : Service) (d : Description) (o : Outcome), s.run d = (t, .ok o) →
        let changes := (Report.ofOutcome o s.context.environment).changes
        changes.IsDifference s.context.environment t.context.environment ∧
          ∀ name, t.context.environment.get? name = s.context.environment.get? name →
            name ∉ changes.set.keys ∧ name ∉ changes.unset := by
  refine ⟨EnvironmentPatch.isDifference_between before after, fun s t d o h => ?_⟩
  dsimp only
  rw [Service.changes_of_run h]
  have hdifference := EnvironmentPatch.isDifference_between s.context.environment
    t.context.environment
  exact ⟨hdifference, fun _ hname => hdifference.not_mentioned hname⟩

section Restored

/-- A launch in an environment of two variables. -/
def restoringService : Service :=
  ⟨.ofEnvironment (.ofList [("HOME", "/root"), ("OLD", "1")]), 8, 0⟩

/-- Removes a variable and sets it again, removes the other one and adds one. -/
def restoringDescription : Description where
  actions :=
    [.unsetVariable none (Template.literal "HOME"),
      .setVariable none (Template.literal "HOME") (Template.literal "/root"),
      .unsetVariable none (Template.literal "OLD"),
      .setVariable none (Template.literal "NEW") (Template.literal "2")]

theorem report_changes_restored : ∃ t o,
    restoringService.run restoringDescription = (t, .ok o) ∧
    t.context.environment.entries = [("HOME", "/root"), ("NEW", "2")] ∧
    let changes := (Report.ofOutcome o restoringService.context.environment).changes
    changes.IsDifference restoringService.context.environment t.context.environment ∧
      changes.set.entries = [("NEW", "2")] ∧ changes.unset = ["OLD"] ∧
      "HOME" ∉ changes.set.keys ∧ "HOME" ∉ changes.unset := by
  have hleft : (restoringService.run restoringDescription).1.context.environment =
      .ofList [("HOME", "/root"), ("NEW", "2")] := OrderedMap.ext (by cbv)
  have hcount : Outcome.executed <$> (restoringService.run restoringDescription).2 = .ok 4 := by
    cbv
  obtain ⟨o, ho, -⟩ := map_eq_ok_iff.mp hcount
  have hrun : restoringService.run restoringDescription =
      ((restoringService.run restoringDescription).1, .ok o) := Prod.ext rfl ho
  obtain ⟨hdifference, hunchanged⟩ := (report_changes .empty .empty).2 _ _ _ _ hrun
  refine ⟨_, o, hrun, congrArg OrderedMap.entries hleft, hdifference, ?_, ?_, hunchanged "HOME" ?_⟩
  · rw [Service.changes_of_run hrun, hleft]
    rfl
  · rw [Service.changes_of_run hrun, hleft]
    rfl
  · rw [hleft]
    rfl

end Restored

end LaunchPlan
