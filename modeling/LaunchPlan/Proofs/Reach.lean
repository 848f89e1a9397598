import LaunchPlan.Proofs.Evaluation

/-! # Actions inside actions

An action can hold others in two ways.  A group runs the actions it holds, so that these are
part of its visit (`Action.Within`).  Registering a handler only stores the actions that the
handler holds; they may run later, once an event is dispatched, and register further handlers
(`Action.Reaches`).

What an action does not hold it cannot run: all that a visit yields is within the action, but
for the two marks of a scope (`Action.within_of_yield`).  So a property of all the actions that
can be reached passes to every handler that is ever registered
(`Context.HandlersHave.visitDepthFirst`).
-/
namespace LaunchPlan

namespace Action

/-- Marks an end of a scope: saves or restores the launch configurations, and nothing else. -/
def IsMark (a : Action) : Prop := a = .pushConfigurations ∨ a = .popConfigurations

/-- An action occurs in another one, at the top or inside groups. -/
inductive Within : Action → Action → Prop
  | self (a) : Within a a
  | group {a b cond isScoped actions} : b ∈ actions → Within a b →
      Within a (.group cond isScoped actions)

/-- An action can come to run another one: inside groups, and inside handlers that it
registers. -/
inductive Reaches : Action → Action → Prop
  | self (a) : Reaches a a
  | group {a b cond isScoped actions} : b ∈ actions → Reaches b a →
      Reaches (.group cond isScoped actions) a
  | handler {a b cond h} : b ∈ h.actions → Reaches b a → Reaches (.register cond h) a

/-- A property of all actions that an action can come to run. -/
def Throughout (P : Action → Prop) (a : Action) : Prop := ∀ b, a.Reaches b → P b

theorem Reaches.trans {a b c : Action} (h : a.Reaches b) (h' : b.Reaches c) : a.Reaches c := by
  induction h with
  | self => exact h'
  | group hb _ ih => exact .group hb (ih h')
  | handler hb _ ih => exact .handler hb (ih h')

theorem Within.reaches {a b : Action} (h : Within a b) : b.Reaches a := by
  induction h with
  | self => exact .self _
  | group hb _ ih => exact .group hb ih

@[simp] theorem throughout_group {P : Action → Prop} {cond : Option Condition} {isScoped : Bool}
    {actions : List Action} :
    (group cond isScoped actions).Throughout P ↔
      P (group cond isScoped actions) ∧ ∀ a ∈ actions, a.Throughout P := by
  constructor
  · intro h
    exact ⟨h _ (.self _), fun a ha b hb => h b (.group ha hb)⟩
  · rintro ⟨hself, hactions⟩ b hb
    cases hb with
    | self => exact hself
    | group ha hb => exact hactions _ ha _ hb

@[simp] theorem throughout_register {P : Action → Prop} {cond : Option Condition} {h : Handler} :
    (register cond h).Throughout P ↔
      P (register cond h) ∧ ∀ a ∈ h.actions, a.Throughout P := by
  constructor
  · intro hall
    exact ⟨hall _ (.self _), fun a ha b hb => hall b (.handler ha hb)⟩
  · rintro ⟨hself, hactions⟩ b hb
    cases hb with
    | self => exact hself
    | handler ha hb => exact hactions _ ha _ hb

/-- An action that holds no others. -/
theorem throughout_of_leaf {P : Action → Prop} {a : Action}
    (hgroup : ∀ cond isScoped actions, a ≠ group cond isScoped actions)
    (hregister : ∀ cond h, a ≠ register cond h) (ha : P a) : a.Throughout P := by
  intro b hb
  cases hb with
  | self => exact ha
  | group => exact absurd rfl (hgroup _ _ _)
  | handler => exact absurd rfl (hregister _ _)

/-- A property throughout an action holds throughout the handlers that it registers. -/
theorem Throughout.of_register {P : Action → Prop} {a : Action} {cond : Option Condition}
    {h : Handler} (ha : a.Throughout P) (hw : Within (.register cond h) a) :
    ∀ b ∈ h.actions, b.Throughout P := by
  intro b hb x hx
  exact ha x (hw.reaches.trans (.handler hb hx))

/-- **Induction over the tree of groups.** -/
theorem group_induction {P : Action → Prop}
    (leaf : ∀ a, (∀ cond isScoped actions, a ≠ .group cond isScoped actions) → P a)
    (group : ∀ cond isScoped actions, (∀ b ∈ actions, P b) → P (.group cond isScoped actions))
    (a : Action) : P a := by
  induction hn : a.weight using Nat.strongRecOn generalizing a with
  | ind n ih =>
    subst hn
    cases a with
    | group cond isScoped actions =>
      refine group cond isScoped actions fun b hb => ih b.weight ?_ b rfl
      -- a member weighs at most what the list weighs, and the group weighs more
      have hle : b.weight ≤ totalWeight actions := by
        obtain ⟨l, m, rfl⟩ := List.append_of_mem hb
        rw [totalWeight_append, totalWeight_cons]
        omega
      rw [weight_group]
      split <;> omega
    | _ => exact leaf _ fun _ _ _ h => nomatch h

/-! ## What a visit can run -/

/-- What an action yields is a mark of a scope or within the action. -/
theorem within_of_yield {c c' : Context} {a : Action} {next : List Action}
    (h : a.visit c = .ok (c', some next)) {b : Action} (hb : b ∈ next) :
    b.IsMark ∨ ∀ x, Within x b → Within x a := by
  obtain ⟨-, cond, isScoped, actions, rfl, rfl⟩ := group_of_yield h
  cases isScoped with
  | false => exact Or.inr fun x hx => .group hb hx
  | true =>
    rcases List.mem_cons.mp hb with rfl | hb
    · exact Or.inl (Or.inl rfl)
    rcases List.mem_append.mp hb with hb | hb
    · exact Or.inr fun x hx => .group hb hx
    · exact Or.inl (Or.inr (List.mem_singleton.mp hb))

/-- Only the mark itself is within a mark. -/
theorem IsMark.eq_of_within {a b : Action} (h : b.IsMark) (hw : Within a b) : a = b := by
  cases hw with
  | self => rfl
  | group => rcases h with h | h <;> cases h

end Action

/-- **Induction along the evaluation of actions of one kind**, to which the marks of a scope
belong.  If all actions within an action are of the kind, only such actions are visited. -/
theorem evaluate_induction_within {P : Action → Prop} {Q : Context → Evaluation → Prop}
    (mark : ∀ a : Action, a.IsMark → P a) (nil : ∀ c, Q c ⟨[], c, none⟩)
    (error : ∀ {c a cause}, P a → a.visit c = .error cause →
      Q c ⟨[⟨c, a⟩], c, some ⟨a, cause⟩⟩)
    (done : ∀ {c a c'}, P a → a.visit c = .ok (c', none) → Q c ⟨[⟨c, a⟩], c', none⟩)
    (behind : ∀ {c a next e}, P a → a.visit c = .ok (c, some next) → Q c e →
      Q c (e.behind ⟨c, a⟩))
    (andThen : ∀ {c e} {next : Context → Evaluation}, Q c e → (∀ d, Q d (next d)) →
      Q c (e.andThen next))
    {a : Action} (ha : ∀ b, Action.Within b a → P b) (c : Context) : Q c (evaluate c a) := by
  refine (evaluation_induction (P := fun c l e =>
      (∀ a ∈ l, ∀ b, Action.Within b a → P b) → Q c e)
    (fun c _ => nil c) ?_ ?_ ?_ ?_).1 c a (List.forall_mem_singleton.mpr ha)
  · intro c a cause hv hl
    exact error (hl a (List.mem_singleton_self a) a (.self a)) hv
  · intro c a c' hv hl
    exact done (hl a (List.mem_singleton_self a) a (.self a)) hv
  · intro c a c' next e hv he hl
    have ha := hl a (List.mem_singleton_self a)
    obtain ⟨rfl, -⟩ := Action.group_of_yield hv
    refine behind (ha a (.self a)) hv (he fun b hb x hx => ?_)
    rcases Action.within_of_yield hv hb with hmark | hwithin
    · rw [hmark.eq_of_within hx]
      exact mark b hmark
    · exact ha x (hwithin x hx)
  · intro c a l e next he hnext hl
    obtain ⟨ha, hl⟩ := List.forall_mem_cons.mp hl
    exact andThen (he (List.forall_mem_singleton.mpr ha)) fun d => hnext d hl

/-- **What the visits of one kind of actions keep**, every visit of an evaluation finds, and so
does its end. -/
theorem evaluate_keeps {α : Type} {f : Context → α} {P : Action → Prop}
    (mark : ∀ a : Action, a.IsMark → P a)
    (keeps : ∀ {c a c' next}, P a → a.visit c = .ok (c', next) → f c' = f c)
    {a : Action} (ha : ∀ b, Action.Within b a → P b) (c : Context) :
    f (evaluate c a).context = f c ∧ ∀ v ∈ (evaluate c a).visits, f v.context = f c := by
  refine evaluate_induction_within
    (Q := fun c e => f e.context = f c ∧ ∀ v ∈ e.visits, f v.context = f c)
    mark ?_ ?_ ?_ ?_ ?_ ha c
  · intro c
    exact ⟨rfl, fun _ hv => absurd hv List.not_mem_nil⟩
  · intro c a cause _ _
    exact ⟨rfl, List.forall_mem_singleton.mpr rfl⟩
  · intro c a c' ha hv
    exact ⟨keeps ha hv, List.forall_mem_singleton.mpr rfl⟩
  · rintro c a next e - - ⟨hend, hvisits⟩
    exact ⟨hend, List.forall_mem_cons.mpr ⟨rfl, hvisits⟩⟩
  · rintro c e next ⟨hend, hvisits⟩ hnext
    obtain ⟨hend', hvisits'⟩ := hnext e.context
    unfold Evaluation.andThen
    cases e.failure with
    | some f => exact ⟨hend, hvisits⟩
    | none =>
      exact ⟨hend'.trans hend,
        List.forall_mem_append.mpr ⟨hvisits, fun v hv => (hvisits' v hv).trans hend⟩⟩

/-! ## Registered handlers -/

namespace Evaluation

/-- The handlers registered at the end were registered at the beginning, or by one of the
actions. -/
def Registers (c : Context) (l : List Action) (e : Evaluation) : Prop :=
  ∀ h ∈ e.context.handlers,
    h ∈ c.handlers ∨ ∃ a ∈ l, ∃ cond, Action.Within (.register cond h) a

namespace Registers
variable {c : Context} {a : Action} {l : List Action}

theorem nil (c : Context) : Registers c [] ⟨[], c, none⟩ := fun _ hh => Or.inl hh

theorem error {cause : ActionError} (_ : a.visit c = .error cause) :
    Registers c [a] ⟨[⟨c, a⟩], c, some ⟨a, cause⟩⟩ := fun _ hh => Or.inl hh

theorem done {c' : Context} (h : a.visit c = .ok (c', none)) :
    Registers c [a] ⟨[⟨c, a⟩], c', none⟩ := by
  intro handler hh
  rcases Action.visit_cases h with ⟨-, rfl, -⟩ | ⟨-, hx⟩
  · exact Or.inl hh
  · rcases hx.mem_handlers hh with hh | ⟨cond, rfl⟩
    · exact Or.inl hh
    · exact Or.inr ⟨_, List.mem_singleton_self _, cond, .self _⟩

theorem behind {c' : Context} {next : List Action} {e : Evaluation}
    (h : a.visit c = .ok (c', some next)) (he : Registers c' next e) :
    Registers c [a] (e.behind ⟨c, a⟩) := by
  intro handler hh
  obtain ⟨rfl, -⟩ := Action.group_of_yield h
  rcases he handler hh with hh | ⟨b, hb, cond, hw⟩
  · exact Or.inl hh
  · rcases Action.within_of_yield h hb with hmark | hwithin
    · -- a mark of a scope registers nothing
      have := hmark.eq_of_within hw
      subst this
      rcases hmark with hmark | hmark <;> cases hmark
    · exact Or.inr ⟨a, List.mem_singleton_self _, cond, hwithin _ hw⟩

theorem andThen {e : Evaluation} {next : Context → Evaluation} (h : Registers c [a] e)
    (hl : ∀ d, Registers d l (next d)) : Registers c (a :: l) (e.andThen next) := by
  have hhead : Registers c (a :: l) e := by
    intro handler hh
    rcases h handler hh with hh | ⟨b, hb, hw⟩
    · exact Or.inl hh
    · rw [List.mem_singleton] at hb
      exact Or.inr ⟨b, hb ▸ List.mem_cons_self, hw⟩
  cases hf : e.failure with
  | some f => simpa [Evaluation.andThen, hf] using hhead
  | none =>
    intro handler hh
    simp only [Evaluation.andThen, hf] at hh
    rcases hl e.context handler hh with hh | ⟨b, hb, hw⟩
    · exact hhead handler hh
    · exact Or.inr ⟨b, List.mem_cons_of_mem _ hb, hw⟩

end Registers
end Evaluation

namespace Context

/-- A property of all actions that the registered handlers can come to run. -/
def HandlersHave (P : Action → Prop) (c : Context) : Prop :=
  ∀ h ∈ c.handlers, ∀ a ∈ h.actions, a.Throughout P

theorem HandlersHave.visitDepthFirst {P : Action → Prop} {c : Context} {a : Action}
    (hc : c.HandlersHave P) (ha : a.Throughout P) :
    (c.visitDepthFirst a).1.HandlersHave P := by
  obtain ⟨configurations, saved, hcontext⟩ := c.fst_visitDepthFirst a
  intro h hh
  rw [hcontext] at hh
  have hreg : Evaluation.Registers c [a] (evaluate c a) :=
    (evaluation_induction .nil .error .done .behind .andThen).1 c a
  rcases hreg h hh with hh | ⟨b, hb, cond, hw⟩
  · exact hc h hh
  · rw [List.mem_singleton] at hb
    exact ha.of_register (hb ▸ hw)

end Context
end LaunchPlan
