import LaunchPlan.Proofs.Scope

/-! # A scope touches the launch configurations only

A scoped group and the same group without a scope are visited from one context.  Once both are
entered, the two runs differ in what is saved: beneath all that the actions inside save there
is one map more, the one that the scope put there.  Actions without bare marks of a scope never
reach it, so the runs go alike at every step (`Evaluation.Alike`): they visit the same actions,
write the same records, and fail at the same action for the same reason.

At the end the map is taken off again, by the mark that closes the scope or by the unwinding
after a failure, and becomes the launch configurations.  Everything else is then as if there had
been no scope (`scoping_configurations_only`).
-/
namespace LaunchPlan

/-- The same context over other open scopes. -/
def Context.onScopes (c : Context) (saved : List (OrderedMap String)) : Context :=
  { c with saved := saved }

/-! ## One visit -/

namespace Action
variable {c : Context} {a : Action}

/-- An effect over other open scopes. -/
def Effect.onScopes (effect : Effect) (saved : List (OrderedMap String)) : Effect :=
  (effect.1.onScopes saved, effect.2)

theorem noteRequired_onScopes (c : Context) (saved : List (OrderedMap String)) :
    (c.onScopes saved).noteRequired = c.noteRequired.onScopes saved := by
  unfold Context.noteRequired
  rw [show (c.onScopes saved).current = c.current from rfl]
  split <;> rfl

/-- Only the marks of a scope look at the open scopes. -/
theorem execute_onScopes (ha : ¬ a.IsMark) (saved : List (OrderedMap String)) :
    a.execute (c.onScopes saved) = (a.execute c).map (Effect.onScopes · saved) := by
  have hvalue : ∀ t, (c.onScopes saved).value t = c.value t := fun _ => rfl
  cases a with
  | setVariable cond name value | setConfiguration cond name value =>
    simp only [execute, hvalue]
    cases c.value name with
    | error cause => rfl
    | ok n => cases c.value value <;> rfl
  | unsetVariable cond name =>
    simp only [execute, hvalue]
    cases c.value name with
    | error cause => rfl
    | ok n =>
      show (if c.environment.contains n then _ else _) = Except.map _ (if _ then _ else _)
      split <;> rfl
  | declareArgument cond name default description =>
    simp only [execute, hvalue]
    cases c.value name with
    | error cause => rfl
    | ok n =>
      show (if c.configurations.contains n then _ else _) = Except.map _ (if _ then _ else _)
      split
      · rfl
      · cases default with
        | none => rfl
        | some d =>
          show (c.value d >>= _) = Except.map _ (c.value d >>= _)
          cases c.value d <;> rfl
  | resetConfigurations cond keep =>
    have hvalues := values_congr (c := c) (d := c.onScopes saved) rfl (keptEntries keep)
    simp only [execute, hvalues]
    cases c.values (keptEntries keep) <;> rfl
  | log cond message =>
    simp only [execute, hvalue]
    cases c.value message <;> rfl
  | group cond isScoped actions => cases isScoped <;> rfl
  | pushConfigurations => exact absurd (Or.inl rfl) ha
  | popConfigurations => exact absurd (Or.inr rfl) ha
  | shutdown cond reason =>
    simp only [execute, hvalue, noteRequired_onScopes]
    cases c.value reason <;> rfl
  | emit | register => rfl
  | unregister cond handler =>
    show (if c.isRegistered handler then _ else _) = Except.map _ (if _ then _ else _)
    split <;> rfl

theorem visit_onScopes (ha : ¬ a.IsMark) (saved : List (OrderedMap String)) :
    a.visit (c.onScopes saved) = (a.visit c).map (Effect.onScopes · saved) := by
  have hrun : a.mayRun (c.onScopes saved) = a.mayRun c := rfl
  rw [visit, visit, hrun, execute_onScopes ha]
  rcases a.mayRun c with cause | _ | _ <;> rfl

end Action

/-! ## Runs that go alike -/

namespace Evaluation

/-- **Two evaluations that go alike**, `e` from `c` and `e'` from the same context over the
scopes `base`: they visit the same actions, end for the same reason, and come to the same
context, in which the same scopes were opened on top. -/
structure Alike (c : Context) (base : List (OrderedMap String)) (e e' : Evaluation) : Prop where
  actions : e'.visits.map Visit.action = e.visits.map Visit.action
  failure : e'.failure = e.failure
  context : ∃ opened, e.context.saved = opened ++ c.saved ∧
    e'.context = e.context.onScopes (opened ++ base)

variable {c : Context} {base : List (OrderedMap String)}

/-- Where the scopes are those of the beginning, they are so on both sides. -/
theorem Alike.context_eq {e e' : Evaluation} (h : Alike c base e e')
    (hsaved : e.context.saved = c.saved) : e'.context = e.context.onScopes base := by
  obtain ⟨opened, hopened, hcontext⟩ := h.context
  rw [hsaved, List.self_eq_append_left] at hopened
  rw [hcontext, hopened, List.nil_append]

theorem Alike.behind {e e' : Evaluation} (h : Alike c base e e') (d d' : Context) (a : Action) :
    Alike c base (e.behind ⟨d, a⟩) (e'.behind ⟨d', a⟩) := by
  refine ⟨?_, h.failure, h.context⟩
  simp only [Evaluation.behind, List.map_cons, h.actions]

theorem alike_evaluateEach {l : List Action} (hr : ∀ a ∈ l, ∀ c, Restores c (evaluate c a))
    (h : ∀ a ∈ l, ∀ c base, Alike c base (evaluate c a) (evaluate (c.onScopes base) a))
    (c : Context) (base : List (OrderedMap String)) :
    Alike c base (evaluateEach c l) (evaluateEach (c.onScopes base) l) := by
  induction l generalizing c with
  | nil =>
    rw [evaluateEach_nil, evaluateEach_nil]
    exact ⟨rfl, rfl, [], rfl, rfl⟩
  | cons a rest ih =>
    have hhead := h a List.mem_cons_self c base
    rw [evaluateEach_cons, evaluateEach_cons]
    have hfailure := hhead.failure
    cases hf : (evaluate c a).failure with
    | some f =>
      rw [hf] at hfailure
      simpa only [andThen, hf, hfailure] using hhead
    | none =>
      -- without a failure the scopes are closed, so the rest starts over those of the beginning
      rw [hf] at hfailure
      have hclosed := (hr a List.mem_cons_self c).closed hf
      have hrest := ih (fun b hb => hr b (List.mem_cons_of_mem _ hb))
        (fun b hb => h b (List.mem_cons_of_mem _ hb)) (evaluate c a).context
      rw [← hhead.context_eq hclosed] at hrest
      obtain ⟨hactions, hfail, hcontext⟩ := hrest
      rw [hclosed] at hcontext
      simp only [andThen, hf, hfailure]
      refine ⟨?_, hfail, hcontext⟩
      simp only [List.map_append, hactions, hhead.actions]

theorem alike_scope {l : List Action} (hr : ∀ c, Restores c (evaluateEach c l))
    (h : ∀ c base, Alike c base (evaluateEach c l) (evaluateEach (c.onScopes base) l))
    (c : Context) (base : List (OrderedMap String)) :
    Alike c base (evaluateEach c (.pushConfigurations :: (l ++ [.popConfigurations])))
      (evaluateEach (c.onScopes base) (.pushConfigurations :: (l ++ [.popConfigurations]))) := by
  have hinside : Alike c.pushConfigurations (c.configurations :: base)
      (evaluateEach c.pushConfigurations l)
      (evaluateEach (c.onScopes base).pushConfigurations l) :=
    h c.pushConfigurations (c.configurations :: base)
  have hclosed := (hr c.pushConfigurations).closed
  have hfailure := hinside.failure
  cases hf : (evaluateEach c.pushConfigurations l).failure with
  | some f =>
    rw [hf] at hfailure
    rw [evaluateEach_scope_of_failure hf, evaluateEach_scope_of_failure hfailure]
    obtain ⟨opened, hopened, hcontext⟩ := hinside.context
    refine Alike.behind ⟨hinside.actions, hinside.failure, opened ++ [c.configurations], ?_, ?_⟩ _ _ _
    · rw [hopened, List.append_assoc]
      rfl
    · rw [hcontext, List.append_assoc]
      rfl
  | none =>
    rw [hf] at hfailure
    have hsaved := hinside.context_eq (hclosed hf)
    have hsaved' : (evaluateEach (c.onScopes base).pushConfigurations l).context.saved =
        c.configurations :: base := by
      rw [hsaved]
      rfl
    rw [evaluateEach_scope_of_saved hf (hclosed hf), evaluateEach_scope_of_saved hfailure hsaved']
    refine ⟨?_, rfl, [], rfl, ?_⟩
    · simp only [List.map_cons, List.map_append, hinside.actions]
    · rw [hsaved]
      rfl

/-- A visit that is no mark of a scope goes alike if what it yields does. -/
theorem alike_of_yield {a : Action} (ha : ¬ a.IsMark)
    (hn : ∀ next, a.visit c = .ok (c, some next) →
      Alike c base (evaluateEach c next) (evaluateEach (c.onScopes base) next)) :
    Alike c base (evaluate c a) (evaluate (c.onScopes base) a) := by
  have hvisit := Action.visit_onScopes (c := c) ha base
  cases hv : a.visit c with
  | error cause =>
    rw [hv] at hvisit
    rw [evaluate_of_error hv, evaluate_of_error hvisit]
    exact ⟨rfl, rfl, [], rfl, rfl⟩
  | ok effect =>
    obtain ⟨c', _ | next⟩ := effect
    · rw [hv] at hvisit
      have hsaved : c'.saved = c.saved := by
        rcases Action.visit_cases hv with ⟨-, rfl, -⟩ | ⟨-, hx⟩
        · rfl
        · exact hx.saved_eq (fun h => ha (Or.inl h)) fun h => ha (Or.inr h)
      rw [evaluate_of_done hv, evaluate_of_done hvisit]
      exact ⟨rfl, rfl, [], hsaved, rfl⟩
    · obtain ⟨rfl, -⟩ := Action.group_of_yield hv
      rw [hv] at hvisit
      rw [evaluate_of_yield hv, evaluate_of_yield hvisit]
      exact (hn next hv).behind _ _ a

theorem alike_evaluate {a : Action} (ha : a.HasNoMark) (c : Context)
    (base : List (OrderedMap String)) :
    Alike c base (evaluate c a) (evaluate (c.onScopes base) a) := by
  induction a using Action.group_induction generalizing c base with
  | leaf a hleaf =>
    refine alike_of_yield (ha a (.self a)) ?_
    intro next hv
    obtain ⟨-, cond, isScoped, actions, rfl, -⟩ := Action.group_of_yield hv
    exact absurd rfl (hleaf cond isScoped actions)
  | group cond isScoped actions ih =>
    have hmarks : ∀ b ∈ actions, b.HasNoMark := fun b hb x hx => ha x (.group hb hx)
    have hr : ∀ b ∈ actions, ∀ d, Restores d (evaluate d b) :=
      fun b hb => restores_evaluate (hmarks b hb)
    have hall := alike_evaluateEach hr fun b hb => ih b hb (hmarks b hb)
    refine alike_of_yield (ha _ (.self _)) ?_
    intro next hv
    obtain ⟨-, _, _, _, heq, rfl⟩ := Action.group_of_yield hv
    cases heq
    cases isScoped with
    | false => exact hall c base
    | true => exact alike_scope (restores_evaluateEach hr) hall c base

end Evaluation

/-! ## With a scope and without it -/

/-- Unwinding takes off one map more, and puts it in the place of the launch configurations. -/
theorem Context.unwindTo_onScopes {d : Context} {opened base : List (OrderedMap String)}
    (h : d.saved = opened ++ base) (configurations : OrderedMap String) :
    (d.onScopes (opened ++ configurations :: base)).unwindTo base.length =
      { d.unwindTo base.length with configurations := configurations } := by
  have hsaved : (d.onScopes (opened ++ configurations :: base)).saved =
      (opened ++ [configurations]) ++ base := by
    rw [List.append_assoc]
    rfl
  rw [unwindTo_append h, unwindTo_append hsaved, List.getLast?_concat]
  rfl

/-- **A group with a scope and without it**, visited from `c`.

* `context`: the visit with the scope leaves the launch configurations of `c`, and all else as
  the visit without it does: environment, event at hand, queue, handlers, reason of the shutdown,
  log and open scopes.
* `answer`: if the condition has no value it is the group itself that fails, for the same reason;
  if it does not hold one visit is made.  Otherwise the same actions are visited inside, and
  both visits fail at the last of them with the same failure, or both succeed, the one with the
  scope after two visits more. -/
structure ScopeAside (c : Context) (cond : Option Condition) (l : List Action) : Prop where
  context : (c.visitDepthFirst (.group cond true l)).1 =
    { (c.visitDepthFirst (.group cond false l)).1 with configurations := c.configurations }
  answer : match (Action.group cond true l).mayRun c with
    | .error cause =>
      (c.visitDepthFirst (.group cond false l)).2 = .error ⟨.group cond false l, cause⟩ ∧
        (c.visitDepthFirst (.group cond true l)).2 = .error ⟨.group cond true l, cause⟩
    | .ok false =>
      (c.visitDepthFirst (.group cond false l)).2 = .ok 1 ∧
        (c.visitDepthFirst (.group cond true l)).2 = .ok 1
    | .ok true => ∃ inside : List Action,
      (c.trail [.group cond false l]).map Visit.action = .group cond false l :: inside ∧
        ((∃ f, (c.visitDepthFirst (.group cond false l)).2 = .error f ∧
            (c.visitDepthFirst (.group cond true l)).2 = .error f ∧
            inside.getLast? = some f.action ∧
            (c.trail [.group cond true l]).map Visit.action =
              .group cond true l :: .pushConfigurations :: inside) ∨
          ∃ n, (c.visitDepthFirst (.group cond false l)).2 = .ok n ∧
            (c.visitDepthFirst (.group cond true l)).2 = .ok (n + 2) ∧
            (c.trail [.group cond true l]).map Visit.action =
              .group cond true l :: .pushConfigurations :: (inside ++ [.popConfigurations]))

section Entered
variable {c : Context} {cond : Option Condition} {l : List Action}

/-- A group whose condition holds is evaluated as what it yields. -/
theorem evaluate_group {isScoped : Bool}
    (hrun : (Action.group cond isScoped l).mayRun c = .ok true) :
    evaluate c (.group cond isScoped l) =
      (evaluateEach c (if isScoped then .pushConfigurations :: (l ++ [.popConfigurations]) else l)).behind
        ⟨c, .group cond isScoped l⟩ := by
  refine evaluate_of_yield ?_
  rw [Action.visit, hrun]
  cases isScoped <;> rfl

/-- The actions of a group go alike with its scope open and without it. -/
theorem alike_inside (hl : ∀ a ∈ l, a.HasNoMark) :
    Evaluation.Alike c (c.configurations :: c.saved) (evaluateEach c l)
      (evaluateEach c.pushConfigurations l) :=
  Evaluation.alike_evaluateEach (fun a ha => Evaluation.restores_evaluate (hl a ha))
    (fun a ha => Evaluation.alike_evaluate (hl a ha)) c _

theorem scopeAside_of_failure {f : Failure} (hl : ∀ a ∈ l, a.HasNoMark)
    (hrun : (Action.group cond true l).mayRun c = .ok true)
    (hf : (evaluateEach c l).failure = some f) : ScopeAside c cond l := by
  have halike := alike_inside (c := c) hl
  have hfailure := halike.failure.trans hf
  obtain ⟨opened, hopened, hcontext⟩ := halike.context
  have hrun' : (Action.group cond false l).mayRun c = .ok true := hrun
  have hplain := evaluate_group hrun'
  have hscoped := evaluate_group hrun
  simp only [if_true, Evaluation.evaluateEach_scope_of_failure hfailure] at hscoped
  have hvisit := c.visitDepthFirst_eq (.group cond false l)
  have hvisit' := c.visitDepthFirst_eq (.group cond true l)
  simp only [hplain, hscoped, Evaluation.behind, hf, hfailure, hcontext, Bool.false_eq_true,
    if_false] at hvisit hvisit'
  constructor
  · rw [hvisit, hvisit']
    exact Context.unwindTo_onScopes hopened c.configurations
  · rw [hrun]
    refine ⟨(evaluateEach c l).visits.map Visit.action, ?_, Or.inl ⟨f, ?_, ?_, ?_, ?_⟩⟩
    · rw [c.trail_eq, hplain]
      rfl
    · rw [hvisit]
    · rw [hvisit']
    · exact getLast?_of_failure hf
    · rw [c.trail_eq, hscoped, ← halike.actions]
      rfl

theorem scopeAside_of_done (hl : ∀ a ∈ l, a.HasNoMark)
    (hrun : (Action.group cond true l).mayRun c = .ok true)
    (hf : (evaluateEach c l).failure = none) : ScopeAside c cond l := by
  have halike := alike_inside (c := c) hl
  have hfailure := halike.failure.trans hf
  -- inside the scope is still open, and outside no scope was left open
  have hclosed := (Evaluation.restores_evaluateEach
    (fun a ha => Evaluation.restores_evaluate (hl a ha)) c).closed hf
  have hcontext := halike.context_eq hclosed
  have hsaved := congrArg Context.saved hcontext
  have hrun' : (Action.group cond false l).mayRun c = .ok true := hrun
  have hplain := evaluate_group hrun'
  have hscoped := evaluate_group hrun
  simp only [if_true, Evaluation.evaluateEach_scope_of_saved hfailure hsaved] at hscoped
  have hvisit := c.visitDepthFirst_eq (.group cond false l)
  have hvisit' := c.visitDepthFirst_eq (.group cond true l)
  simp only [hplain, hscoped, Evaluation.behind, hf, hcontext, Bool.false_eq_true,
    if_false] at hvisit hvisit'
  have hlength := congrArg List.length halike.actions
  rw [List.length_map, List.length_map] at hlength
  constructor
  · rw [hvisit, hvisit', ← hclosed]
    rfl
  · rw [hrun]
    refine ⟨(evaluateEach c l).visits.map Visit.action, ?_,
      Or.inr ⟨(evaluateEach c l).visits.length + 1, ?_, ?_, ?_⟩⟩
    · rw [c.trail_eq, hplain]
      rfl
    · rw [hvisit]
      rfl
    · rw [hvisit']
      simp only [List.length_cons, List.length_append, List.length_nil, hlength]
    · rw [c.trail_eq, hscoped, ← halike.actions]
      simp only [Evaluation.behind, List.map_cons, List.map_append, List.map_nil]

end Entered

/-- **Scoping affects launch configurations only.**  Whether the actions of a group run in a
scope of their own makes no difference but that the launch configurations are those of the
beginning afterwards, and that two more visits are counted. -/
theorem scoping_configurations_only {l : List Action} (hl : ∀ a ∈ l, a.HasNoMark) (c : Context)
    (cond : Option Condition) : ScopeAside c cond l := by
  cases hrun : (Action.group cond true l).mayRun c with
  | error cause =>
    have hvisit : ∀ isScoped, c.visitDepthFirst (.group cond isScoped l) =
        (c, .error ⟨.group cond isScoped l, cause⟩) := by
      intro isScoped
      have hrun' : (Action.group cond isScoped l).mayRun c = .error cause := hrun
      have heval : evaluate c (.group cond isScoped l) =
          ⟨[⟨c, .group cond isScoped l⟩], c, some ⟨.group cond isScoped l, cause⟩⟩ := by
        refine evaluate_of_error ?_
        rw [Action.visit, hrun']
        rfl
      rw [c.visitDepthFirst_eq, heval]
      simp only [Context.unwindTo_of_le (Nat.le_refl c.depth)]
    constructor
    · rw [hvisit, hvisit]
    · rw [hrun]
      exact ⟨by rw [hvisit], by rw [hvisit]⟩
  | ok runs =>
    cases runs with
    | false =>
      have hvisit : ∀ isScoped, c.visitDepthFirst (.group cond isScoped l) =
          (c.note (.skipped .groupAction), .ok 1) := by
        intro isScoped
        have hrun' : (Action.group cond isScoped l).mayRun c = .ok false := hrun
        have heval : evaluate c (.group cond isScoped l) =
            ⟨[⟨c, .group cond isScoped l⟩], c.note (.skipped .groupAction), none⟩ := by
          refine evaluate_of_done ?_
          rw [Action.visit, hrun']
          rfl
        rw [c.visitDepthFirst_eq, heval]
        rfl
      constructor
      · rw [hvisit, hvisit]
        rfl
      · rw [hrun]
        exact ⟨by rw [hvisit], by rw [hvisit]⟩
    | true =>
      cases hf : (evaluateEach c l).failure with
      | some f => exact scopeAside_of_failure hl hrun hf
      | none => exact scopeAside_of_done hl hrun hf

/-- Actions that set an environment variable and a launch configuration, the latter a second time
in a scope of its own. -/
def settings : List Action :=
  [.setVariable none (.literal "v") (.literal "1"),
    .setConfiguration none (.literal "a") (.literal "inner"),
    .group none true [.setConfiguration none (.literal "a") (.literal "innermost")]]

/-- `settings`, and an argument that is missing in a scope. -/
def failingSettings : List Action :=
  settings ++ [.group none true [.declareArgument none (.literal "required") none none]]

/-- With and without a scope `settings` sets the variable and `failingSettings` fails; without a
scope the launch configuration is left set. -/
theorem scoping_configurations_only_settings :
    let c := (Context.ofEnvironment .empty).setConfiguration "a" "outer"
    ScopeAside c none settings ∧ ScopeAside c none failingSettings ∧
      (c.visitDepthFirst (.group none true settings)).1.environment.get? "v" = some "1" ∧
      (c.visitDepthFirst (.group none false settings)).1.configurations.get? "a" = some "inner" ∧
      (c.visitDepthFirst (.group none true settings)).1.configurations.get? "a" = some "outer" ∧
      (c.visitDepthFirst (.group none true failingSettings)).2.isOk = false := by
  intro c
  have hmarks : ∀ a ∈ failingSettings, a.HasNoMark := by
    have hall : ∀ a ∈ failingSettings, a.Throughout fun b => ¬ b.IsMark := by
      simp [failingSettings, settings, Action.throughout_of_leaf, Action.IsMark]
    exact fun a ha => (hall a ha).hasNoMark
  have hmarks' : ∀ a ∈ settings, a.HasNoMark := fun a ha => hmarks a (List.mem_append_left _ ha)
  refine ⟨scoping_configurations_only hmarks' c none,
    scoping_configurations_only hmarks c none, ?_, ?_, ?_, ?_⟩
  · cbv
  · cbv
  · cbv
  · cbv

end LaunchPlan
