import LaunchPlan.Proofs.Extension
import LaunchPlan.Proofs.Reset

/-! # Actions that can be repeated

Removing a variable and declaring an argument are meant to be done once: a second time there is
nothing left to do.  But both change a table, and their names are templates that may be looked up
in this very table, so the second time the name may be another one or none at all.

* A name that does not look into the environment (`Template.LooksInto`) is the same when variables
  are removed: a template reads nothing but the tables it looks into (`Template.resolve_congr`).
* A declaration adds an entry to the configurations.  A name stays the same as long as none of its
  parts reads a default for want of a configuration (`Template.resolve_of_holds`).

For such actions (`Action.IsRepeatable`) the second execution finds the name absent, or present,
and leaves the context alone.
-/
namespace LaunchPlan

/-! ## The tables that a template looks into -/

namespace Template

/-- At some depth of the template there is a part that looks into the table. -/
def LooksInto (table : Table) (t : Template) : Prop :=
  (table, false) ∈ parts t ∨ (table, true) ∈ parts t

instance (table : Table) (t : Template) : Decidable (LooksInto table t) :=
  inferInstanceAs (Decidable (_ ∨ _))

section LooksInto
variable {table table' : Table} {name rest : Template} {default : Option Template}

theorem looksInto_iff {t : Template} : LooksInto table t ↔ ∃ d, (table, d) ∈ parts t := by
  rw [LooksInto, Bool.exists_bool]

theorem looksInto_text_cons {content : String} :
    LooksInto table (.text content :: rest) ↔ LooksInto table rest := by
  rw [looksInto_iff, looksInto_iff, parts, Substitution.parts, List.nil_append]

/-- The part itself looks into its table; other tables are looked into by its name, by its default
or behind it. -/
theorem looksInto_part_cons : LooksInto table (table'.part name default :: rest) ↔
    table = table' ∨ LooksInto table name ∨
      (∃ d, default = some d ∧ LooksInto table d) ∨ LooksInto table rest := by
  simp only [looksInto_iff, parts_part_cons, List.cons_append, List.mem_cons, List.mem_append,
    Prod.mk.injEq, exists_or, exists_and_left, exists_eq, and_true, or_assoc]
  cases default <;> simp [partsOfDefault]

end LooksInto

/-- **A template reads nothing but the tables it looks into.** -/
theorem resolve_congr {b b' : Bindings} {t : Template}
    (h : ∀ table, t.LooksInto table → ∀ name,
      (b'.table table).get? name = (b.table table).get? name) :
    resolve b' t = resolve b t := by
  induction t using Template.induction with
  | nil => rfl
  | text content rest ih =>
    rw [resolve_text_cons, resolve_text_cons,
      ih fun table ht => h table (looksInto_text_cons.mpr ht)]
  | part table name default rest hname hdefault hrest =>
    have hname' := hname fun u hu => h u (looksInto_part_cons.mpr (.inr (.inl hu)))
    have hrest' := hrest fun u hu => h u (looksInto_part_cons.mpr (.inr (.inr (.inr hu))))
    have hfound (n : String) : found b' table default n = found b table default n := by
      unfold found
      rw [h table (looksInto_part_cons.mpr (.inl rfl)) n]
      cases default with
      | none => rfl
      | some d =>
        have hd := hdefault d rfl fun u hu =>
          h u (looksInto_part_cons.mpr (.inr (.inr (.inl ⟨d, rfl, hu⟩))))
        rw [resolveDefault, resolveDefault, hd]
    rw [resolve_part_cons, resolve_part_cons, hname', hrest']
    simp only [hfound]

end Template

theorem OrderedMap.holds_insert {α : Type} {m : OrderedMap α} {name : String}
    (h : m.contains name = false) (a : α) : (m.insert name a).Holds m := by
  intro x b hx
  rw [get?_insert, if_neg, hx]
  rintro rfl
  rw [contains, hx] at h
  cases h

/-! ## Values that survive -/

namespace Context
variable {c d : Context} {t : Template} {n : String}

/-- Changes of the environment are not seen by texts that do not look into it. -/
theorem value_of_sameConfigurations (hd : d.configurations = c.configurations)
    (ht : ¬ t.LooksInto .environment) : d.value t = c.value t := by
  have hresolve : Template.resolve d.toBindings t = Template.resolve c.toBindings t := by
    refine Template.resolve_congr fun table htable name => ?_
    cases table with
    | configurations => exact congrArg (OrderedMap.get? · name) hd
    | environment => exact absurd htable ht
  rw [value, value, hresolve]

/-- A value stays when a new configuration is set, if no default may have been read for want of
it. -/
theorem value_setConfiguration (hn : c.configurations.contains n = false)
    (ht : ¬ t.HasDefault .configurations) {v w : String} (h : c.value t = .ok w) :
    (c.setConfiguration n v).value t = .ok w := by
  have hholds : ∀ table, ((c.setConfiguration n v).table table).Holds (c.table table) :=
    @Table.forall_of_other _ .configurations (OrderedMap.holds_insert hn v)
      (.of_get?_eq fun _ => rfl)
  have hsame : ∀ table, t.HasDefault table →
      (c.table table).Holds ((c.setConfiguration n v).table table) := by
    intro table htable
    cases table with
    | configurations => exact absurd htable ht
    | environment => exact .of_get?_eq fun _ => rfl
  rw [value_eq_ok_iff] at h ⊢
  exact Template.resolve_of_holds hholds hsame h

end Context

/-! ## Executing twice -/

namespace Action
variable {c d : Context} {a : Action} {next : Option (List Action)}

/-- **The actions that can be repeated.**  A variable is removed by a name that is not looked up in
the environment, or an argument is declared whose name cannot read a default in the place of a
configuration. -/
inductive IsRepeatable : Action → Prop
  | unset {cond name} : ¬ Template.LooksInto .environment name →
      IsRepeatable (.unsetVariable cond name)
  | declare {cond name default description} : ¬ Template.HasDefault .configurations name →
      IsRepeatable (.declareArgument cond name default description)

theorem perform_eq_ok_iff : a.perform.on c = (d, .ok next) ↔ Executes c a d next := by
  have hexecute : a.perform.on c = (d, .ok next) ↔ a.execute c = .ok (d, next) := by
    rw [on_perform]
    cases a.execute c <;> simp [Context.settle, Prod.ext_iff]
  rw [hexecute]
  exact ⟨executes_of_execute, execute_of_executes⟩

/-- What is left by the first execution is a fixed point of the action. -/
theorem Executes.again (ha : a.IsRepeatable) (hx : Executes c a d next) :
    Executes d a d next := by
  cases ha with
  | @unset _ name hname =>
    cases hx with
    | @unsetVariable _ _ n hn =>
      have hsame : ((c.note (.unsettingVariable n)).unsetVariable n).value name = c.value name :=
        Context.value_of_sameConfigurations rfl hname
      refine .unsetAbsent (hsame.trans hn) ?_
      show (c.environment.erase n).contains n = false
      rw [OrderedMap.contains, OrderedMap.get?_erase, if_pos rfl]
      rfl
    | unsetAbsent hn habsent => exact .unsetAbsent hn habsent
  | declare hname =>
    cases hx with
    | declarePresent hn hpresent => exact .declarePresent hn hpresent
    | @declareDefault _ _ _ _ n v hn habsent _ =>
      refine .declarePresent (Context.value_setConfiguration habsent hname hn) ?_
      show (c.configurations.insert n v).contains n = true
      rw [OrderedMap.contains, OrderedMap.get?_insert, if_pos rfl]
      rfl

end Action

/-- **Repetition is idle.**  If such an action succeeds, executing it a second time succeeds as
well and leaves the whole context as it is after the first time, log included. -/
theorem repetition_idle {c d : Context} {a : Action} {next : Option (List Action)}
    (ha : a.IsRepeatable) (h : a.perform.on c = (d, .ok next)) : a.perform.on d = (d, .ok next) :=
  Action.perform_eq_ok_iff.mpr ((Action.perform_eq_ok_iff.mp h).again ha)

section Computed

/-- A context in which one configuration names another, and this one a variable. -/
def namedContext : Context where
  toBindings := ⟨.ofList [("which", "home"), ("home", "ROBOT_HOME")],
    .ofList [("ROBOT_HOME", "/opt"), ("USER", "robot")]⟩
  saved := []
  current := none
  pending := []
  handlers := []
  shutdownReason := none
  log := #[]

/-- Removes the variable that a configuration names, which another one names. -/
def unsetNamed : Action :=
  .unsetVariable none [.configuration [.configuration (Template.literal "which") none] none]

/-- Declares an argument named after a user, or after anybody if there is none. -/
def declareNamed : Action :=
  .declareArgument none
    [.variable (Template.literal "USER") (some (Template.literal "anybody")), .text "_goal"]
    (some [.configuration (Template.literal "which") none]) none

theorem repetition_idle_named :
    (unsetNamed.perform.on (unsetNamed.perform.on namedContext).1 =
        unsetNamed.perform.on namedContext ∧
      (unsetNamed.perform.on namedContext).1.environment.entries = [("USER", "robot")]) ∧
      declareNamed.perform.on (declareNamed.perform.on namedContext).1 =
        declareNamed.perform.on namedContext ∧
      (declareNamed.perform.on namedContext).1.configurations.keys =
        ["which", "home", "robot_goal"] := by
  have hunset : unsetNamed.perform.on namedContext =
      ((unsetNamed.perform.on namedContext).1, .ok none) := by rfl
  have hdeclare : declareNamed.perform.on namedContext =
      ((declareNamed.perform.on namedContext).1, .ok none) := by rfl
  refine ⟨⟨?_, by rfl⟩, ?_, by rfl⟩
  · exact (repetition_idle (.unset (by decide)) hunset).trans hunset.symm
  · exact (repetition_idle (.declare (by decide)) hdeclare).trans hdeclare.symm

end Computed

/-- A variable that names itself can be removed by this name only once. -/
example :
    let c := Context.ofEnvironment (.ofList [("A", "A")])
    let unset : Action := .unsetVariable none [.variable (Template.literal "A") none]
    (unset.perform.on c).2 = .ok none ∧
      (unset.perform.on (unset.perform.on c).1).2 =
        .error (.resolution (.undefinedVariable "A")) := by
  constructor
  · rfl
  · rfl

/-- The name is the default the first time, and the value of the new argument the second time. -/
example :
    let declare : Action := .declareArgument none
      [.configuration (Template.literal "x") (some (Template.literal "x"))]
      (some (Template.literal "y")) none
    let once := (declare.perform.on (Context.ofEnvironment .empty)).1
    once.configurations.entries = [("x", "y")] ∧
      (declare.perform.on once).1.configurations.entries = [("x", "y"), ("y", "y")] := by
  constructor
  · rfl
  · rfl

end LaunchPlan
