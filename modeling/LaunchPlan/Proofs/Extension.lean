import LaunchPlan.Proofs.Lookup

/-! # Resolving in an extended context

A template that has a value keeps it when the tables gain entries, as long as no default was read
for want of a name: a new entry of this name would take the place of the default.  Which names
are read depends on other lookups, so the condition is about all parts at any depth
(`Template.parts`), and about each table apart.  A table may gain entries if no part that looks
into it carries a default (`Template.HasDefault`); a table with defaults has to keep just the
entries it has (`Template.resolve_of_holds`).

The order of the entries plays no role.
-/
namespace LaunchPlan

/-! ## Maps that hold others -/

namespace OrderedMap
variable {α : Type}

/-- The map `n` has all names of `m`, with the same values and in any order. -/
def Holds (n m : OrderedMap α) : Prop :=
  ∀ name a, m.get? name = some a → n.get? name = some a

theorem holds_iff {n m : OrderedMap α} :
    n.Holds m ↔ ∀ e ∈ m.entries, n.get? e.1 = some e.2 := by
  constructor
  · rintro h ⟨name, a⟩ he
    exact h name a ((lookup_eq_some_iff m.nodup).mpr he)
  · intro h name a ha
    exact h (name, a) ((lookup_eq_some_iff m.nodup).mp ha)

instance [DecidableEq α] (n m : OrderedMap α) : Decidable (n.Holds m) :=
  decidable_of_iff _ holds_iff.symm

theorem Holds.of_get?_eq {n m : OrderedMap α} (h : ∀ name, n.get? name = m.get? name) :
    n.Holds m := fun name _ ha => (h name).trans ha

end OrderedMap

/-- The table besides a table. -/
def Table.other : Table → Table
  | configurations => environment
  | environment => configurations

theorem Table.forall_of_other {P : Table → Prop} {table : Table} (h : P table)
    (hother : P table.other) : ∀ u, P u := by
  intro u
  cases table <;> cases u <;> assumption

/-! ## The parts at any depth -/

mutual

/-- A part, and the parts in its name and in its default. -/
def Substitution.parts : Substitution → List (Table × Bool)
  | .text _ => []
  | .configuration name default =>
    (.configurations, default.isSome) :: (Template.parts name ++ Template.partsOfDefault default)
  | .variable name default =>
    (.environment, default.isSome) :: (Template.parts name ++ Template.partsOfDefault default)

/-- The parts of a template at any depth: the table that each looks into, and whether it carries
a default. -/
def Template.parts : List Substitution → List (Table × Bool)
  | [] => []
  | part :: rest => part.parts ++ Template.parts rest

/-- The parts of a default at any depth. -/
def Template.partsOfDefault : Option (List Substitution) → List (Table × Bool)
  | some default => Template.parts default
  | none => []

end

namespace Template

/-- At some depth of the template there is a part with a default that looks into the table. -/
def HasDefault (table : Table) (t : Template) : Prop := (table, true) ∈ parts t

instance (table : Table) (t : Template) : Decidable (HasDefault table t) :=
  inferInstanceAs (Decidable (_ ∈ _))

section HasDefault
variable {table table' : Table} {name rest : Template} {default : Option Template}

theorem parts_part_cons : parts (table'.part name default :: rest) =
    (table', default.isSome) :: (parts name ++ partsOfDefault default) ++ parts rest := by
  cases table' <;> rw [parts, Table.part, Substitution.parts]

theorem hasDefault_text_cons {content : String} :
    HasDefault table (.text content :: rest) ↔ HasDefault table rest := by
  rw [HasDefault, HasDefault, parts, Substitution.parts, List.nil_append]

/-- A default is the one of the first part, or in its name, in its default, or behind it. -/
theorem hasDefault_part_cons : HasDefault table (table'.part name default :: rest) ↔
    (table = table' ∧ default.isSome = true) ∨ HasDefault table name ∨
      (∃ d, default = some d ∧ HasDefault table d) ∨ HasDefault table rest := by
  cases default <;>
    simp [HasDefault, parts_part_cons, partsOfDefault]

end HasDefault

section Extended
variable {b b' : Bindings} (hholds : ∀ table, (b'.table table).Holds (b.table table))
include hholds

/-- A part keeps its value if its default does, and if its table then has gained nothing. -/
theorem found_of_holds {table : Table} {default : Option Template} {n v : String}
    (hsame : default.isSome = true → (b.table table).Holds (b'.table table))
    (hdefault : ∀ d, default = some d → ∀ w, resolve b d = .ok w → resolve b' d = .ok w)
    (h : found b table default n = .ok v) : found b' table default n = .ok v := by
  unfold found at h ⊢
  cases hn : (b.table table).get? n with
  | some w =>
    rw [hn] at h
    rw [hholds table n w hn]
    exact h
  | none =>
    rw [hn] at h
    cases default with
    | none => cases h
    | some d =>
      -- the name is still absent, or the table would have had it before
      have habsent : (b'.table table).get? n = none := by
        rw [Option.eq_none_iff_forall_ne_some]
        intro w hw
        rw [hsame rfl n w hw] at hn
        cases hn
      rw [habsent]
      exact hdefault d rfl v h

/-- **A value stays** in all bindings that hold the entries of the beginning, if the tables into
which parts with defaults look have gained nothing. -/
theorem resolve_of_holds {t : Template} {v : String}
    (hsame : ∀ table, t.HasDefault table → (b.table table).Holds (b'.table table))
    (h : resolve b t = .ok v) : resolve b' t = .ok v := by
  induction t using Template.induction generalizing v with
  | nil => exact h
  | text content rest ih =>
    rw [resolve_text_cons] at h ⊢
    obtain ⟨w, hw, rfl⟩ := map_eq_ok_iff.mp h
    rw [ih (fun table ht => hsame table (hasDefault_text_cons.mpr ht)) hw]
    rfl
  | part table name default rest hname hdefault hrest =>
    rw [resolve_part_cons] at h ⊢
    obtain ⟨n, hn, h⟩ := bind_eq_ok_iff.mp h
    obtain ⟨w, hw, h⟩ := bind_eq_ok_iff.mp h
    obtain ⟨ws, hws, rfl⟩ := map_eq_ok_iff.mp h
    have hn' := hname (fun u hu => hsame u (hasDefault_part_cons.mpr (.inr (.inl hu)))) hn
    have hw' : found b' table default n = .ok w := by
      refine found_of_holds hholds ?_ ?_ hw
      · exact fun hd => hsame table (hasDefault_part_cons.mpr (.inl ⟨rfl, hd⟩))
      · intro d hd w hw
        exact hdefault d hd
          (fun u hu => hsame u (hasDefault_part_cons.mpr (.inr (.inr (.inl ⟨d, hd, hu⟩))))) hw
    have hws' :=
      hrest (fun u hu => hsame u (hasDefault_part_cons.mpr (.inr (.inr (.inr hu))))) hws
    rw [hn', hws']
    show found b' table default n >>= _ = _
    rw [hw']
    rfl

end Extended
end Template

/-- **Resolving is stable under extension.**  A template without defaults at any depth keeps its
value in all bindings that hold the entries of `b`.  A template in which only parts of the other
table carry defaults keeps it where the one table holds the entries of `b` and the other table
has the same ones. -/
theorem resolve_stable {b b' : Bindings} {t : Template} {v : String}
    (h : Template.resolve b t = .ok v) :
    ((∀ table, ¬ t.HasDefault table) → (∀ table, (b'.table table).Holds (b.table table)) →
        Template.resolve b' t = .ok v) ∧
      ∀ table : Table, ¬ t.HasDefault table → (b'.table table).Holds (b.table table) →
        (∀ name, (b'.table table.other).get? name = (b.table table.other).get? name) →
        Template.resolve b' t = .ok v := by
  constructor
  · intro hno hholds
    exact Template.resolve_of_holds hholds (fun table ht => absurd ht (hno table)) h
  · intro table hno hholds hother
    have hholds' : ∀ u, (b'.table u).Holds (b.table u) :=
      Table.forall_of_other hholds (.of_get?_eq hother)
    have hsame : t.HasDefault table → (b.table table).Holds (b'.table table) :=
      fun ht => absurd ht hno
    have hsame' : ∀ u, t.HasDefault u → (b.table u).Holds (b'.table u) :=
      Table.forall_of_other hsame fun _ => .of_get?_eq fun name => (hother name).symm
    exact Template.resolve_of_holds hholds' hsame' h

/-- The rate of what is launched, under a name that is looked up. -/
def computedRate : Template :=
  [.configuration [.configuration (Template.literal "which") none] none]

/-- The rate with its unit, which is Hz unless the environment has another one. -/
def rateWithUnit : Template :=
  computedRate ++ [.variable (Template.literal "UNIT") (some (Template.literal " Hz"))]

/-- Bindings in which both templates have a value. -/
def rateBindings : Bindings := ⟨.ofList [("which", "rate"), ("rate", "30")], .empty⟩

/-- The same configurations in another order and one more of them, in any environment. -/
def moreBindings (environment : OrderedMap String) : Bindings :=
  ⟨.ofList [("rate", "30"), ("name", "talker"), ("which", "rate")], environment⟩

/-- The rate is the same in every extension, and with the unit it is so in the same environment.
Where the environment gains the unit the default gives way to it. -/
theorem resolve_stable_rate :
    Template.resolve (moreBindings (.ofList [("UNIT", " rpm")])) computedRate = .ok "30" ∧
      Template.resolve (moreBindings .empty) rateWithUnit = .ok "30 Hz" ∧
      Template.resolve (moreBindings (.ofList [("UNIT", " rpm")])) rateWithUnit = .ok "30 rpm" := by
  have hrate : Template.resolve rateBindings computedRate = .ok "30" := by rfl
  have hunit : Template.resolve rateBindings rateWithUnit = .ok "30 Hz" := by rfl
  refine ⟨(resolve_stable hrate).1 ?_ ?_,
    (resolve_stable hunit).2 .configurations ?_ ?_ ?_, by rfl⟩
  · intro table
    cases table <;> decide
  · intro table
    cases table <;> decide
  · decide
  · decide
  · exact fun _ => rfl

end LaunchPlan
