import Mathlib
import LaunchPlan.Proofs.History
import LaunchPlan.Proofs.Reach

/-! # Scopes close

A scoped group saves the launch configurations, runs its actions and restores what it saved.
An action that fails in between leaves scopes open, any number of them, and the visit of the
whole tree then closes all that lie above the depth at its entry.

The invariant is about an evaluation that may end anywhere (`Evaluation.Restores`): what is
saved at the end is what was saved at the beginning, with the scopes still open on top, and
without a failure there are none.  For a scoped group the outermost of them holds the launch
configurations of the beginning (`Evaluation.Encloses`).  Unwinding therefore restores the
saved configurations themselves, not only their number (`Context.unwindTo_append`), and closing
a scope never finds none open.

For whole calls nothing else is needed than that handlers never come to hold a bare mark of a
scope: every action visited at the top, by a description or by a handler, finds the scopes as
they were before the call and leaves them so.
-/
namespace LaunchPlan

/-- No mark of a scope occurs in an action, but for those that scoped groups yield. -/
def Action.HasNoMark (a : Action) : Prop := ∀ b, Action.Within b a → ¬ b.IsMark

/-! ## Evaluations -/

namespace Evaluation

/-- **Scopes are opened on top of those there were**, and closed again unless the evaluation
failed; and it did not fail for want of a scope to close. -/
structure Restores (c : Context) (e : Evaluation) : Prop where
  opened : ∃ opened, e.context.saved = opened ++ c.saved
  closed : e.failure = none → e.context.saved = c.saved
  cause_ne : ∀ f, e.failure = some f → f.cause ≠ .unbalancedScope

/-- The launch configurations of the beginning are still there, or else saved by the outermost
scope that is open. -/
def Encloses (c : Context) (e : Evaluation) : Prop :=
  ∃ opened, e.context.saved = opened ++ c.saved ∧
    opened.getLast?.getD e.context.configurations = c.configurations

theorem Restores.andThen {c : Context} {e : Evaluation} {next : Context → Evaluation}
    (h : Restores c e) (hn : ∀ d, Restores d (next d)) : Restores c (e.andThen next) := by
  cases hf : e.failure with
  | some f => simpa only [Evaluation.andThen, hf] using h
  | none =>
    have hsaved := h.closed hf
    obtain ⟨hopened, hclosed, hcause⟩ := hn e.context
    rw [hsaved] at hopened hclosed
    simp only [Evaluation.andThen, hf]
    exact ⟨hopened, hclosed, hcause⟩

theorem restores_evaluateEach {l : List Action} (h : ∀ a ∈ l, ∀ c, Restores c (evaluate c a))
    (c : Context) : Restores c (evaluateEach c l) := by
  induction l generalizing c with
  | nil =>
    rw [evaluateEach_nil]
    refine ⟨⟨[], rfl⟩, fun _ => rfl, ?_⟩
    intro f hf
    cases hf
  | cons a rest ih =>
    rw [evaluateEach_cons]
    exact (h a List.mem_cons_self c).andThen
      (ih fun b hb => h b (List.mem_cons_of_mem _ hb))

theorem evaluate_push (c : Context) :
    evaluate c .pushConfigurations =
      ⟨[⟨c, .pushConfigurations⟩], c.pushConfigurations, none⟩ :=
  evaluate_of_done rfl

theorem evaluate_pop {c : Context} {s : OrderedMap String} {rest : List (OrderedMap String)}
    (h : c.saved = s :: rest) :
    evaluate c .popConfigurations =
      ⟨[⟨c, .popConfigurations⟩], { c with configurations := s, saved := rest }, none⟩ := by
  refine evaluate_of_done ?_
  show Action.execute c .popConfigurations = _
  simp only [Action.execute, Context.popConfigurations?_of_saved h]

/-- Actions between the two marks of a scope, one of which fails. -/
theorem evaluateEach_scope_of_failure {c : Context} {l : List Action} {f : Failure}
    (hf : (evaluateEach c.pushConfigurations l).failure = some f) :
    evaluateEach c (.pushConfigurations :: (l ++ [.popConfigurations])) =
      (evaluateEach c.pushConfigurations l).behind ⟨c, .pushConfigurations⟩ := by
  rw [evaluateEach_cons, evaluate_push]
  simp only [evaluateEach_append, Evaluation.andThen, hf, behind, List.singleton_append]

/-- Actions between the two marks of a scope, after which a scope is open. -/
theorem evaluateEach_scope_of_saved {c : Context} {l : List Action} {s : OrderedMap String}
    {rest : List (OrderedMap String)} (hf : (evaluateEach c.pushConfigurations l).failure = none)
    (hs : (evaluateEach c.pushConfigurations l).context.saved = s :: rest) :
    evaluateEach c (.pushConfigurations :: (l ++ [.popConfigurations])) =
      ⟨⟨c, .pushConfigurations⟩ :: ((evaluateEach c.pushConfigurations l).visits ++
          [⟨(evaluateEach c.pushConfigurations l).context, .popConfigurations⟩]),
        { (evaluateEach c.pushConfigurations l).context with configurations := s, saved := rest },
        none⟩ := by
  have hpop := evaluate_pop hs
  rw [evaluateEach_cons, evaluate_push]
  simp only [evaluateEach_append, Evaluation.andThen, hf, evaluateEach_cons, evaluateEach_nil, hpop]
  rfl

/-- Actions between the two marks of a scope: when all went well the scope is closed, and at a
failure it is still open, with the configurations of the beginning. -/
theorem restores_scope {l : List Action} (h : ∀ c, Restores c (evaluateEach c l)) (c : Context) :
    Restores c (evaluateEach c (.pushConfigurations :: (l ++ [.popConfigurations]))) ∧
      Encloses c (evaluateEach c (.pushConfigurations :: (l ++ [.popConfigurations]))) := by
  obtain ⟨⟨opened, hopened⟩, hclosed, hcause⟩ := h c.pushConfigurations
  have hpush : c.pushConfigurations.saved = c.configurations :: c.saved := rfl
  rw [hpush] at hopened hclosed
  cases hf : (evaluateEach c.pushConfigurations l).failure with
  | some f =>
    -- the scope is still open, outermost of those opened since
    have hsaved : (evaluateEach c.pushConfigurations l).context.saved =
        (opened ++ [c.configurations]) ++ c.saved := by
      rw [hopened, List.append_assoc, List.singleton_append]
    rw [evaluateEach_scope_of_failure hf]
    refine ⟨⟨⟨_, hsaved⟩, ?_, hcause⟩, _, hsaved, ?_⟩
    · intro hn
      rw [behind, hf] at hn
      cases hn
    · rw [List.getLast?_concat, Option.getD_some]
  | none =>
    -- the actions left the scope as the innermost one, so the last mark closes it
    rw [evaluateEach_scope_of_saved hf (hclosed hf)]
    refine ⟨⟨⟨[], rfl⟩, fun _ => rfl, ?_⟩, [], rfl, rfl⟩
    intro f hn
    cases hn

/-- A visit that is no mark of a scope restores the scopes if what it yields does. -/
theorem restores_of_yield {c : Context} {a : Action} (ha : ¬ a.IsMark)
    (hn : ∀ next, a.visit c = .ok (c, some next) → Restores c (evaluateEach c next)) :
    Restores c (evaluate c a) := by
  cases hv : a.visit c with
  | error cause =>
    rw [evaluate_of_error hv]
    refine ⟨⟨[], rfl⟩, fun _ => rfl, ?_⟩
    intro f hf hcause
    cases hf
    subst hcause
    exact ha (Or.inr (Action.eq_pop_of_unbalanced hv).1)
  | ok effect =>
    obtain ⟨c', _ | next⟩ := effect
    · have hsaved : c'.saved = c.saved := by
        rcases Action.visit_cases hv with ⟨-, rfl, -⟩ | ⟨-, hx⟩
        · rfl
        · exact hx.saved_eq (fun h => ha (Or.inl h)) fun h => ha (Or.inr h)
      rw [evaluate_of_done hv]
      refine ⟨⟨[], hsaved⟩, fun _ => hsaved, ?_⟩
      intro f hf
      cases hf
    · obtain ⟨rfl, -⟩ := Action.group_of_yield hv
      rw [evaluate_of_yield hv]
      have h := hn next hv
      exact ⟨h.opened, h.closed, h.cause_ne⟩

theorem restores_evaluate {a : Action} (ha : a.HasNoMark) (c : Context) :
    Restores c (evaluate c a) := by
  induction a using Action.group_induction generalizing c with
  | leaf a hleaf =>
    refine restores_of_yield (ha a (.self a)) ?_
    intro next hv
    obtain ⟨-, cond, isScoped, actions, rfl, -⟩ := Action.group_of_yield hv
    exact absurd rfl (hleaf cond isScoped actions)
  | group cond isScoped actions ih =>
    have hall : ∀ d, Restores d (evaluateEach d actions) :=
      restores_evaluateEach fun b hb => ih b hb fun x hx => ha x (.group hb hx)
    refine restores_of_yield (ha _ (.self _)) ?_
    intro next hv
    obtain ⟨-, _, _, _, heq, rfl⟩ := Action.group_of_yield hv
    cases heq
    cases isScoped with
    | false => exact hall c
    | true => exact (restores_scope hall c).1

theorem encloses_evaluate {cond : Option Condition} {actions : List Action}
    (ha : Action.HasNoMark (.group cond true actions)) (c : Context) :
    Encloses c (evaluate c (.group cond true actions)) := by
  have hall : ∀ d, Restores d (evaluateEach d actions) :=
    restores_evaluateEach fun b hb => restores_evaluate fun x hx => ha x (.group hb hx)
  cases hv : Action.visit c (.group cond true actions) with
  | error cause =>
    rw [evaluate_of_error hv]
    exact ⟨[], rfl, rfl⟩
  | ok effect =>
    obtain ⟨c', next⟩ := effect
    rcases Action.visit_cases hv with ⟨-, rfl, rfl⟩ | ⟨-, hx⟩
    · rw [evaluate_of_done hv]
      exact ⟨[], rfl, rfl⟩
    · cases hx
      rw [evaluate_of_yield hv]
      exact (restores_scope hall c).2

end Evaluation

/-! ## Visits with all that they yield -/

/-- **Scope balance of one visit** with all that it yields.  Scopes are closed, contents
included, whatever happened; a scoped group leaves the launch configurations as they were; and
any other action that fails leaves those that the outermost scope still open at the failure had
saved, or those of the failure if no scope was open. -/
structure ScopeBalance (c : Context) (a : Action) : Prop where
  saved : (c.visitDepthFirst a).1.saved = c.saved
  cause_ne : ∀ f, (c.visitDepthFirst a).2 = .error f → f.cause ≠ .unbalancedScope
  enclosed : ∀ cond actions, a = .group cond true actions →
    (c.visitDepthFirst a).1.configurations = c.configurations
  failed : ∀ f, (c.visitDepthFirst a).2 = .error f →
    ∃ d opened, (c.trail [a]).getLast? = some ⟨d, f.action⟩ ∧ d.saved = opened ++ c.saved ∧
      (c.visitDepthFirst a).1.configurations = opened.getLast?.getD d.configurations

theorem scopeBalance_of_hasNoMark {a : Action} (ha : a.HasNoMark) (c : Context) :
    ScopeBalance c a := by
  obtain ⟨⟨opened, hopened⟩, hclosed, hcause⟩ := Evaluation.restores_evaluate ha c
  have hvisit := c.visitDepthFirst_eq a
  have hend := (tallies_evaluate c a).ending
  cases hf : (evaluate c a).failure with
  | none =>
    rw [hf] at hvisit
    refine ⟨by rw [hvisit]; exact hclosed hf, ?_, ?_, ?_⟩
    · intro f h
      rw [hvisit] at h
      cases h
    · rintro cond actions rfl
      obtain ⟨opened', hopened', hconf⟩ := Evaluation.encloses_evaluate ha c
      -- no scope was left open, so none is left to have saved anything
      rw [hclosed hf, List.self_eq_append_left] at hopened'
      subst hopened'
      rw [hvisit]
      exact hconf
    · intro f h
      rw [hvisit] at h
      cases h
  | some f =>
    simp only [hf] at hend hvisit
    have hunwind := Context.unwindTo_append hopened
    rw [Context.depth, hunwind] at hvisit
    obtain ⟨before, htrail, -, -⟩ := hend
    refine ⟨by rw [hvisit], ?_, ?_, ?_⟩
    · intro g h
      rw [hvisit] at h
      cases h
      exact hcause f hf
    · rintro cond actions rfl
      obtain ⟨opened', hopened', hconf⟩ := Evaluation.encloses_evaluate ha c
      rw [hopened] at hopened'
      rw [hvisit, List.append_cancel_right hopened']
      exact hconf
    · intro g h
      rw [hvisit] at h
      cases h
      refine ⟨(evaluate c a).context, opened, ?_, hopened, by rw [hvisit]⟩
      rw [c.trail_eq, htrail, List.getLast?_concat]

/-! ## Calls -/

/-- **Scope balance of a call.**  Whatever the call answers, scopes are as they were before it;
every visit that a description or a handler starts finds them so and is balanced, and none fails
for want of a scope to close. -/
structure CallBalance (s : Service) (k : Service.Call) : Prop where
  saved : (s.call k).1.context.saved = s.context.saved
  cause_ne : ∀ f, (s.call k).2 = some (.action f) → f.cause ≠ .unbalancedScope
  visits : ∀ m ∈ s.moments k, ∀ v ∈ m.roots,
    v.context.saved = s.context.saved ∧ ScopeBalance v.context v.action

theorem Action.Throughout.hasNoMark {a : Action} (h : a.Throughout fun b => ¬ b.IsMark) :
    a.HasNoMark := fun b hb => h b hb.reaches

theorem callBalance {s : Service} {k : Service.Call}
    (hk : ∀ a ∈ k.actions, a.Throughout fun b => ¬ b.IsMark)
    (hs : s.context.HandlersHave fun b => ¬ b.IsMark) : CallBalance s k := by
  obtain ⟨⟨-, hsaved⟩, hvisits⟩ := (s.path_call k).invariant
    (I := fun c => c.HandlersHave (fun b => ¬ b.IsMark) ∧ c.saved = s.context.saved)
    (Q := fun a => a.Throughout fun b => ¬ b.IsMark) ⟨hs, rfl⟩
    (fun u a ha => hk a (Service.mem_actions_of_entity ha))
    (fun hc hd => ⟨by rw [Context.HandlersHave, hd.handlers]; exact hc.1, hd.saved.trans hc.2⟩)
    (fun hc => hc.1)
    (fun ha hc => ⟨hc.1.visitDepthFirst ha,
      (scopeBalance_of_hasNoMark ha.hasNoMark _).saved.trans hc.2⟩)
  refine ⟨hsaved, ?_, ?_⟩
  · intro f hf
    obtain ⟨m, hm, v, hv, hfail⟩ := Service.exists_root_of_call hf
    exact (scopeBalance_of_hasNoMark (hvisits m hm v hv).2.hasNoMark _).cause_ne f hfail
  · intro m hm v hv
    obtain ⟨⟨-, hsaved⟩, ha⟩ := hvisits m hm v hv
    exact ⟨hsaved, scopeBalance_of_hasNoMark ha.hasNoMark _⟩

/-- **Scopes balance.**  The visit of an action without bare marks of a scope is balanced in
every context, and so is every call of a service as long as no bare mark can be reached from
its description or from a registered handler. -/
theorem scopes_balance :
    (∀ (a : Action) (c : Context), a.HasNoMark → ScopeBalance c a) ∧
      ∀ (s : Service) (k : Service.Call),
        (∀ a ∈ k.actions, a.Throughout fun b => ¬ b.IsMark) →
        (s.context.HandlersHave fun b => ¬ b.IsMark) → CallBalance s k :=
  ⟨fun _ c ha => scopeBalance_of_hasNoMark ha c, fun _ _ hk hs => callBalance hk hs⟩

/-- A scope that ends with a failure in an inner scope. -/
def failingScopes : Action :=
  .group none true [.setConfiguration none (.literal "a") (.literal "inner"),
    .group none true [.setConfiguration none (.literal "a") (.literal "innermost"),
      .declareArgument none (.literal "required") none none]]

/-- A service in an open scope, with a handler that runs `failingScopes` when it shuts down. -/
def serviceInScope : Service where
  context :=
    { ((Context.ofEnvironment .empty).setConfiguration "a" "outer").pushConfigurations with
      handlers := [⟨"h", .shutdownEvent, none, [failingScopes]⟩] }
  maxDispatches := 8
  executed := 0

theorem throughout_failingScopes : failingScopes.Throughout fun b => ¬ b.IsMark := by
  simp [failingScopes, Action.throughout_of_leaf, Action.IsMark]

/-- Both a run of `failingScopes` and its run by a handler fail with the missing argument, and
leave the launch configurations and the scopes as they were. -/
theorem scopes_balance_failingScopes :
    (serviceInScope.call (.run ⟨[failingScopes]⟩)).2.isSome = true ∧
      CallBalance serviceInScope (.run ⟨[failingScopes]⟩) ∧
      (serviceInScope.call (.deliver (.shutdown "done" false))).2.isSome = true ∧
      CallBalance serviceInScope (.deliver (.shutdown "done" false)) ∧
      (serviceInScope.context.visitDepthFirst failingScopes).1.configurations =
        serviceInScope.context.configurations := by
  have hs : serviceInScope.context.HandlersHave fun b => ¬ b.IsMark := by
    simpa [Context.HandlersHave, serviceInScope] using throughout_failingScopes
  have hrun : ∀ a ∈ [failingScopes], a.Throughout fun b => ¬ b.IsMark := by
    simpa using throughout_failingScopes
  have hnone : ∀ a ∈ ([] : List Action), a.Throughout fun b => ¬ b.IsMark := by simp
  refine ⟨by cbv, scopes_balance.2 _ _ hrun hs, by cbv, scopes_balance.2 _ _ hnone hs, ?_⟩
  exact (scopes_balance.1 failingScopes _ throughout_failingScopes.hasNoMark).enclosed _ _ rfl

end LaunchPlan
