import Mathlib.Logic.Relation
import Mathlib.Order.Fin.Basic
import LaunchPlan.Introspection
import LaunchPlan.Proofs.Answer

/-! # The hierarchy of classes

Whether a class derives from another one is found out by a walk along the bases, which compares
classes by what they are and not by their names.  This module says that the walk decides an order.

A `Hierarchy` has its classes by number, as they are made one after the other: any of them may have
the name of another one, and all that is asked of a base is that it was made before.
`Hierarchy.classOf` is the class with a number.  Different numbers stand for different classes
(`Hierarchy.classOf_injective`), so the walk over classes is one over numbers, and each step of it
leads to a smaller number.  From this come the end of the walk (`Hierarchy.search_iff`) and the laws
of the order: a class and one above it cannot be above each other, and as every class has one base
at most, the classes above a class form a chain.
-/
namespace LaunchPlan
open Relation

namespace Class
variable {c d e : Class}

/-- The serial number of a class. -/
def serial : Class → Nat
  | root s _ => s
  | derived s _ _ => s

/-- From a class one comes to another one: along its base, the base of that, and so on.  Every
class comes to itself. -/
def Reaches : Class → Class → Prop := ReflTransGen fun c d => d ∈ c.base?

theorem reaches_iff : c.Reaches d ↔ c = d ∨ ∃ b ∈ c.base?, b.Reaches d :=
  ReflTransGen.cases_head_iff

theorem derivesFrom_iff_reaches : c.derivesFrom d = true ↔ c.Reaches d := by
  induction c with
  | root s n =>
    rw [reaches_iff, derivesFrom, beq_iff_eq]
    simp [base?]
  | derived s n b ih =>
    rw [reaches_iff, derivesFrom, Bool.or_eq_true, beq_iff_eq, ih]
    simp [base?]

theorem derivesFrom_trans (hcd : c.derivesFrom d = true) (hde : d.derivesFrom e = true) :
    c.derivesFrom e = true := by
  rw [derivesFrom_iff_reaches] at hcd hde ⊢
  exact ReflTransGen.trans hcd hde

end Class

/-! ## Classes by number -/

/-- **A hierarchy of `n` classes**, numbered as they were made. -/
structure Hierarchy (n : Nat) where
  /-- The serial number of a class. -/
  serial : Fin n → Nat
  /-- The name of a class; others may have it, too. -/
  name : Fin n → String
  /-- The base of a class, unless it is a root. -/
  base? : Fin n → Option (Fin n)
  /-- The base was made before the class. -/
  base_lt (i : Fin n) : ∀ j ∈ base? i, j < i
  /-- Classes of one name with one base have different serial numbers. -/
  distinct (i j : Fin n) : serial i = serial j → name i = name j → base? i = base? j → i = j

namespace Hierarchy
variable {n : Nat} {H : Hierarchy n} {i j k : Fin n}

/-- Any names and any bases made before are those of a hierarchy: its classes can be told apart by
their numbers. -/
def ofBases (name : Fin n → String) (base? : Fin n → Option (Fin n))
    (base_lt : ∀ i, ∀ j ∈ base? i, j < i) : Hierarchy n where
  serial := Fin.val
  name := name
  base? := base?
  base_lt := base_lt
  distinct _ _ h _ _ := Fin.ext h

/-- The class with a number. -/
def classOf (H : Hierarchy n) (i : Fin n) : Class :=
  match _h : H.base? i with
  | none => .root (H.serial i) (H.name i)
  | some j => .derived (H.serial i) (H.name i) (H.classOf j)
termination_by i.val
decreasing_by exact H.base_lt i j _h

theorem classOf_of_root (h : H.base? i = none) :
    H.classOf i = .root (H.serial i) (H.name i) := by
  rw [classOf]
  split <;> simp_all

theorem classOf_of_base (h : H.base? i = some j) :
    H.classOf i = .derived (H.serial i) (H.name i) (H.classOf j) := by
  rw [classOf]
  split <;> simp_all

theorem serial_classOf (H : Hierarchy n) (i : Fin n) : (H.classOf i).serial = H.serial i := by
  cases hi : H.base? i with
  | none => rw [classOf_of_root hi, Class.serial]
  | some j => rw [classOf_of_base hi, Class.serial]

theorem name_classOf (H : Hierarchy n) (i : Fin n) : (H.classOf i).name = H.name i := by
  cases hi : H.base? i with
  | none => rw [classOf_of_root hi, Class.name]
  | some j => rw [classOf_of_base hi, Class.name]

theorem base?_classOf (H : Hierarchy n) (i : Fin n) :
    (H.classOf i).base? = (H.base? i).map H.classOf := by
  cases hi : H.base? i with
  | none => rw [classOf_of_root hi, Class.base?, Option.map_none]
  | some j => rw [classOf_of_base hi, Class.base?, Option.map_some]

theorem eq_of_base?_eq (h : H.classOf i = H.classOf j) (hbase : H.base? i = H.base? j) :
    i = j := by
  refine H.distinct i j ?_ ?_ hbase
  · rw [← serial_classOf, h, serial_classOf]
  · rw [← name_classOf, h, name_classOf]

/-- **Different numbers stand for different classes**, whatever their names are. -/
theorem classOf_injective (H : Hierarchy n) : Function.Injective H.classOf := by
  intro i
  induction i using classOf.induct H with
  | case1 i hi =>
    intro j h
    have hbases : (H.base? j).map H.classOf = none := by
      rw [← base?_classOf, ← h, base?_classOf, hi, Option.map_none]
    exact eq_of_base?_eq h (by rw [hi, Option.map_eq_none_iff.mp hbases])
  | case2 i k hi ih =>
    intro j h
    have hbases : (H.base? j).map H.classOf = some (H.classOf k) := by
      rw [← base?_classOf, ← h, base?_classOf, hi, Option.map_some]
    obtain ⟨l, hj, hl⟩ := Option.map_eq_some_iff.mp hbases
    exact eq_of_base?_eq h (by rw [hi, hj, ih hl.symm])

/-! ## The walk along the bases -/

theorem derivesFrom_of_root (h : H.base? i = none) :
    (H.classOf i).derivesFrom (H.classOf j) = decide (i = j) := by
  rw [Bool.eq_iff_iff, decide_eq_true_iff, ← H.classOf_injective.eq_iff, classOf_of_root h,
    Class.derivesFrom, beq_iff_eq]

theorem derivesFrom_of_base (h : H.base? i = some k) :
    (H.classOf i).derivesFrom (H.classOf j) =
      (decide (i = j) || (H.classOf k).derivesFrom (H.classOf j)) := by
  rw [Bool.eq_iff_iff, Bool.or_eq_true, decide_eq_true_iff, ← H.classOf_injective.eq_iff,
    classOf_of_base h, Class.derivesFrom, Bool.or_eq_true, beq_iff_eq]

/-- **The walk that looks for a class**, from a number on or from beyond a root.  It compares
numbers and nothing else: it ends at the number that it looks for or when there is no further
base. -/
inductive Search (H : Hierarchy n) (target : Fin n) : Option (Fin n) → Bool → Prop
  | beyond : H.Search target none false
  | found : H.Search target (some target) true
  | up {i answer} : i ≠ target → H.Search target (H.base? i) answer →
      H.Search target (some i) answer

theorem search_self_iff {answer : Bool} : H.Search i (some i) answer ↔ answer = true := by
  constructor
  · rintro (_ | _ | ⟨hne, -⟩)
    · rfl
    · exact absurd rfl hne
  · rintro rfl
    exact .found

theorem search_of_ne {answer : Bool} (hne : i ≠ j) :
    H.Search j (some i) answer ↔ H.Search j (H.base? i) answer := by
  refine ⟨?_, .up hne⟩
  rintro (_ | _ | ⟨-, h⟩)
  · exact absurd rfl hne
  · exact h

theorem search_beyond_iff {answer : Bool} : H.Search j none answer ↔ answer = false := by
  constructor
  · rintro ⟨⟩
    rfl
  · rintro rfl
    exact .beyond

/-- **The walk ends**, and its answer is whether the one class derives from the other. -/
theorem search_iff {answer : Bool} :
    H.Search j (some i) answer ↔ answer = (H.classOf i).derivesFrom (H.classOf j) := by
  induction i using classOf.induct H with
  | case1 i hi =>
    rw [derivesFrom_of_root hi]
    by_cases hij : i = j
    · subst hij
      simp [search_self_iff]
    · simp [search_of_ne hij, hi, search_beyond_iff, hij]
  | case2 i k hi ih =>
    rw [derivesFrom_of_base hi]
    by_cases hij : i = j
    · subst hij
      simp [search_self_iff]
    · simp [search_of_ne hij, hi, ih, hij]

/-! ## The order -/

/-- From a number one comes to another one along bases. -/
def Reaches (H : Hierarchy n) : Fin n → Fin n → Prop := ReflTransGen fun i j => j ∈ H.base? i

theorem reaches_iff : H.Reaches i j ↔ i = j ∨ ∃ k ∈ H.base? i, H.Reaches k j :=
  ReflTransGen.cases_head_iff

theorem derivesFrom_iff_reaches :
    (H.classOf i).derivesFrom (H.classOf j) = true ↔ H.Reaches i j := by
  induction i using classOf.induct H with
  | case1 i hi =>
    rw [derivesFrom_of_root hi, reaches_iff, hi]
    simp
  | case2 i k hi ih =>
    rw [derivesFrom_of_base hi, reaches_iff, hi]
    simp [ih]

/-- Bases lead to smaller numbers. -/
theorem Reaches.le (h : H.Reaches i j) : j ≤ i := by
  induction h with
  | refl => exact le_refl i
  | tail _ hbase ih => exact (H.base_lt _ _ hbase).le.trans ih

/-- The numbers that one comes to from a number form a chain. -/
theorem Reaches.total (hj : H.Reaches i j) (hk : H.Reaches i k) : H.Reaches j k ∨ H.Reaches k j :=
  ReflTransGen.total_of_right_unique (fun _ _ _ => Option.mem_unique) hj hk

/-- **The classes of a hierarchy are ordered along their bases**, by number.

* `search`: the walk that compares numbers ends, with the answer that is given for the classes.
* `closure`: a class derives from those that one comes to along bases, and from no other.
* `refl`, `trans`, `antisymm`: this is an order; only a class itself is above it and below it.
* `chain`: of two classes above one class, one is above the other. -/
structure IsOrdered (H : Hierarchy n) : Prop where
  search (i j : Fin n) (answer : Bool) :
    H.Search j (some i) answer ↔ answer = (H.classOf i).derivesFrom (H.classOf j)
  closure (i j : Fin n) : (H.classOf i).derivesFrom (H.classOf j) = true ↔ H.Reaches i j
  refl (i : Fin n) : (H.classOf i).derivesFrom (H.classOf i) = true
  trans (i j k : Fin n) : (H.classOf i).derivesFrom (H.classOf j) = true →
    (H.classOf j).derivesFrom (H.classOf k) = true → (H.classOf i).derivesFrom (H.classOf k) = true
  antisymm (i j : Fin n) : (H.classOf i).derivesFrom (H.classOf j) = true →
    (H.classOf j).derivesFrom (H.classOf i) = true → i = j
  chain (i j k : Fin n) : (H.classOf i).derivesFrom (H.classOf j) = true →
    (H.classOf i).derivesFrom (H.classOf k) = true →
    (H.classOf j).derivesFrom (H.classOf k) = true ∨ (H.classOf k).derivesFrom (H.classOf j) = true

theorem isOrdered (H : Hierarchy n) : H.IsOrdered where
  search _ _ _ := search_iff
  closure _ _ := derivesFrom_iff_reaches
  refl _ := derivesFrom_iff_reaches.mpr ReflTransGen.refl
  trans _ _ _ := Class.derivesFrom_trans
  antisymm i j hij hji := by
    rw [derivesFrom_iff_reaches] at hij hji
    exact le_antisymm hji.le hij.le
  chain i j k hij hik := by
    rw [derivesFrom_iff_reaches] at hij hik ⊢
    rw [derivesFrom_iff_reaches]
    exact hij.total hik

end Hierarchy

/-! ## Questions about objects -/

namespace Object
variable {o t : Object}

/-- The class to which the order is applied: that of an instance, or the object itself if it is a
class. -/
def class? : Object → Option Class
  | instanceOf c => some c
  | classRef c => some c
  | scalar _ => none

/-- The object is an instance of a class. -/
def IsInstance (o : Object) : Prop := ∃ c, o = instanceOf c

/-- The object is a class. -/
def IsClass (o : Object) : Prop := ∃ c, o = classRef c

theorem expectClass_eq_ok_iff {d : Class} : t.expectClass = .ok d ↔ t = classRef d := by
  cases t <;> simp [expectClass]

theorem expectClass_eq_error_iff {e : IntrospectionError} :
    t.expectClass = .error e ↔ ¬ t.IsClass ∧ e = .notAClass t := by
  cases t <;> simp [expectClass, IsClass, eq_comm]

theorem expectInstance_eq_ok_iff {c : Class} : o.expectInstance = .ok c ↔ o = instanceOf c := by
  cases o <;> simp [expectInstance]

theorem expectInstance_eq_error_iff {e : IntrospectionError} :
    o.expectInstance = .error e ↔ ¬ o.IsInstance ∧ e = .notAnInstance o := by
  cases o <;> simp [expectInstance, IsInstance, eq_comm]

theorem isA_eq_ok_iff {answer : Bool} : o.isA t = .ok answer ↔
    ∃ c d, o = instanceOf c ∧ t = classRef d ∧ answer = c.derivesFrom d := by
  simp only [isA, bind_eq_ok_iff, expectInstance_eq_ok_iff, expectClass_eq_ok_iff,
    Except.ok.injEq, exists_and_left, eq_comm (a := answer)]

theorem isA_eq_error_iff {e : IntrospectionError} : o.isA t = .error e ↔
    (¬ o.IsInstance ∧ e = .notAnInstance o) ∨
      (o.IsInstance ∧ ¬ t.IsClass ∧ e = .notAClass t) := by
  simp only [isA, bind_eq_error_iff, expectInstance_eq_error_iff, expectInstance_eq_ok_iff,
    expectClass_eq_error_iff, reduceCtorEq, and_false, exists_false, or_false, IsInstance,
    exists_and_right]

/-- Asked about a class, `isASubclass` always has an answer. -/
theorem isASubclass_classRef (o : Object) (d : Class) :
    o.isASubclass (classRef d) = .ok (o.class?.any (·.derivesFrom d)) := by
  cases o <;> rfl

theorem isASubclass_eq_error_iff {e : IntrospectionError} :
    o.isASubclass t = .error e ↔ ¬ t.IsClass ∧ e = .notAClass t := by
  by_cases ht : t.IsClass
  · obtain ⟨d, rfl⟩ := ht
    simp [isASubclass_classRef, IsClass]
  · have hclass := expectClass_eq_error_iff.mpr ⟨ht, rfl⟩
    rw [isASubclass, hclass]
    simp [bind, Except.bind, ht, eq_comm]

theorem isASubclass_eq_ok_iff {answer : Bool} : o.isASubclass t = .ok answer ↔
    ∃ d, t = classRef d ∧ answer = o.class?.any (·.derivesFrom d) := by
  constructor
  · intro h
    obtain ⟨d, hd, -⟩ := bind_eq_ok_iff.mp h
    rw [expectClass_eq_ok_iff] at hd
    subst hd
    rw [isASubclass_classRef, Except.ok.injEq] at h
    exact ⟨d, rfl, h.symm⟩
  · rintro ⟨d, rfl, rfl⟩
    exact isASubclass_classRef o d

/-- **The answers about an object `o` and what should be a class, `t`.**

* `subclass_error`, `subclass_ok`: `isASubclass` fails just if `t` is no class.  Otherwise it tells
  whether the class of `o` derives from `t`, which a scalar does not.
* `isA_error`, `isA_ok`: `isA` fails if `o` is no instance, whatever `t` is, and then if `t` is no
  class.  Otherwise it tells whether the class of the instance derives from `t`.
* `agree`: where `isA` answers, `isASubclass` gives the same answer. -/
structure AnswersByOrder (o t : Object) : Prop where
  subclass_error (e : IntrospectionError) :
    o.isASubclass t = .error e ↔ ¬ t.IsClass ∧ e = .notAClass t
  subclass_ok (answer : Bool) : o.isASubclass t = .ok answer ↔
    ∃ d, t = classRef d ∧ (answer = true ↔ ∃ c ∈ o.class?, c.Reaches d)
  isA_error (e : IntrospectionError) : o.isA t = .error e ↔
    (¬ o.IsInstance ∧ e = .notAnInstance o) ∨ (o.IsInstance ∧ ¬ t.IsClass ∧ e = .notAClass t)
  isA_ok (answer : Bool) : o.isA t = .ok answer ↔
    ∃ c d, o = instanceOf c ∧ t = classRef d ∧ (answer = true ↔ c.Reaches d)
  agree (answer : Bool) : o.isA t = .ok answer → o.isASubclass t = .ok answer

theorem answersByOrder (o t : Object) : o.AnswersByOrder t where
  subclass_error _ := isASubclass_eq_error_iff
  subclass_ok answer := by
    rw [isASubclass_eq_ok_iff]
    refine exists_congr fun d => and_congr_right fun _ => ?_
    rw [Bool.eq_iff_iff]
    simp only [Option.any_eq_true, Class.derivesFrom_iff_reaches, Option.mem_def]
  isA_error _ := isA_eq_error_iff
  isA_ok answer := by
    rw [isA_eq_ok_iff]
    refine exists₂_congr fun c d => and_congr_right fun _ => and_congr_right fun _ => ?_
    rw [Bool.eq_iff_iff, Class.derivesFrom_iff_reaches]
  agree answer h := by
    obtain ⟨c, d, rfl, rfl, rfl⟩ := isA_eq_ok_iff.mp h
    exact isASubclass_classRef _ d

end Object

/-- **Introspection is the order of classes**, which goes by what the classes are and not by their
names. -/
theorem introspection_order :
    (∀ (n : Nat) (H : Hierarchy n), Function.Injective H.classOf ∧ H.IsOrdered) ∧
      ∀ o t : Object, o.AnswersByOrder t :=
  ⟨fun _ H => ⟨H.classOf_injective, H.isOrdered⟩, Object.answersByOrder⟩

section Namesakes

/-- Two classes of one name that derive from a third one of this name, and a class below the first
of them. -/
def namesakes : Hierarchy 4 :=
  .ofBases (fun _ => "Node") (fun i => match i with
    | 0 => none
    | 1 => some 0
    | 2 => some 0
    | 3 => some 1) (by decide)

/-- The class below the first of the two does not derive from the second, which has the same name
and the same base. -/
theorem introspection_order_namesakes :
    namesakes.name 1 = namesakes.name 2 ∧ namesakes.base? 1 = namesakes.base? 2 ∧
    namesakes.classOf 1 ≠ namesakes.classOf 2 ∧
    (Object.instanceOf (namesakes.classOf 3)).isA (.classRef (namesakes.classOf 1)) = .ok true ∧
    (Object.instanceOf (namesakes.classOf 3)).isA (.classRef (namesakes.classOf 2)) = .ok false ∧
    (Object.scalar (.number 42)).isA (.scalar (.text "Node")) =
      .error (.notAnInstance (.scalar (.number 42))) := by
  obtain ⟨hhierarchy, hobject⟩ := introspection_order
  obtain ⟨hinjective, hordered⟩ := hhierarchy 4 namesakes
  have hfirst : (namesakes.classOf 3).derivesFrom (namesakes.classOf 1) = true :=
    ((hordered.search 3 1 true).mp (.up (by decide) .found)).symm
  have hsecond : (namesakes.classOf 3).derivesFrom (namesakes.classOf 2) = false :=
    ((hordered.search 3 2 false).mp
      (.up (by decide) (.up (by decide) (.up (by decide) .beyond)))).symm
  refine ⟨rfl, rfl, fun h => absurd (hinjective h) (by decide), ?_, ?_, ?_⟩
  · exact ((hobject _ _).isA_ok true).mpr
      ⟨_, _, rfl, rfl, by simp [← Class.derivesFrom_iff_reaches, hfirst]⟩
  · exact ((hobject _ _).isA_ok false).mpr
      ⟨_, _, rfl, rfl, by simp [← Class.derivesFrom_iff_reaches, hsecond]⟩
  · exact ((hobject _ _).isA_error _).mpr (.inl ⟨nofun, rfl⟩)

end Namesakes
end LaunchPlan
