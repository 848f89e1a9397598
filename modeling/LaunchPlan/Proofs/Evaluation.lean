import LaunchPlan.Proofs.Effect

/-! # The work list and the recursion

`Context.visitAll` visits with a work list: what an action yields is put before the rest.
The plain reading of a launch description is recursive: visit the action, then evaluate the
actions it yields, from left to right, each completely before the next.  That reading is
`evaluate`, and an `Evaluation` keeps all there is to tell about it: the visits made, the
context at the end, and the failure if there was one.

`visitDepthFirst_eq_evaluate` says that the two agree.  The invariant is
`Evaluation.Accounts`, which is about a work list with anything behind the actions in
question: the loop makes the visits of the evaluation and then, unless a visit failed, goes on
behind.  A scope counts as opened since the entry when it lies above the depth at the entry;
after a failure exactly these scopes are closed, one by one (`Context.unwindTo_eq_closeTimes`).
-/
namespace LaunchPlan

/-- A visit: an action, and the context that it found. -/
structure Visit where
  context : Context
  action : Action

namespace Visit

/-- The visit comes to an end without an error. -/
def Succeeds (v : Visit) : Prop := ∃ effect, v.action.visit v.context = .ok effect

/-- The condition of the action does not let it run. -/
def IsSkip (v : Visit) : Prop := v.action.mayRun v.context = .ok false

end Visit

namespace Context

/-- The visits that the loop makes for a work list, in order. -/
def trail (c : Context) (work : List Action) : List Visit :=
  match work with
  | [] => []
  | a :: rest =>
    ⟨c, a⟩ :: match _h : a.visit c with
      | .error _ => []
      | .ok (c', none) => trail c' rest
      | .ok (c', some next) => trail c' (next ++ rest)
  termination_by Action.totalWeight work
  decreasing_by
    · have := a.weight_pos
      simp; omega
    · have := Action.visit_weight _h
      simp; omega

/-- Closes the innermost scope so many times, as long as one is open. -/
def closeTimes : Nat → Context → Context
  | 0, c => c
  | n + 1, c =>
    match c.popConfigurations? with
    | some c' => closeTimes n c'
    | none => c

end Context

/-- How the evaluation of some actions went: the visits in order, the context at the end, and
the failure that ended it, if there was one.  After a failure the context is that at the
failure. -/
structure Evaluation where
  visits : List Visit
  context : Context
  failure : Option Failure

namespace Evaluation

/-- An evaluation that began with one more visit. -/
def behind (v : Visit) (e : Evaluation) : Evaluation := { e with visits := v :: e.visits }

/-- An evaluation and what follows it; a failure ends both. -/
def andThen (e : Evaluation) (next : Context → Evaluation) : Evaluation :=
  match e.failure with
  | some _ => e
  | none => { next e.context with visits := e.visits ++ (next e.context).visits }

end Evaluation

mutual

/-- **The recursive reading of an action**: visit it, then evaluate what it yields. -/
def evaluate (c : Context) (a : Action) : Evaluation :=
  match _h : a.visit c with
  | .error cause => ⟨[⟨c, a⟩], c, some ⟨a, cause⟩⟩
  | .ok (c', none) => ⟨[⟨c, a⟩], c', none⟩
  | .ok (c', some next) => (evaluateEach c' next).behind ⟨c, a⟩
  termination_by 2 * a.weight
  decreasing_by
    have := Action.visit_weight _h
    omega

/-- The recursive reading of a list of actions: from left to right, each completely before
the next. -/
def evaluateEach (c : Context) (l : List Action) : Evaluation :=
  match l with
  | [] => ⟨[], c, none⟩
  | a :: rest => (evaluate c a).andThen fun c' => evaluateEach c' rest
  termination_by 2 * Action.totalWeight l + 1
  decreasing_by
    · rw [Action.totalWeight_cons]
      omega
    · have := a.weight_pos
      rw [Action.totalWeight_cons]
      omega

end

theorem evaluate_of_error {c : Context} {a : Action} {cause : ActionError}
    (h : a.visit c = .error cause) : evaluate c a = ⟨[⟨c, a⟩], c, some ⟨a, cause⟩⟩ := by
  rw [evaluate]
  split <;> simp_all

theorem evaluate_of_done {c c' : Context} {a : Action} (h : a.visit c = .ok (c', none)) :
    evaluate c a = ⟨[⟨c, a⟩], c', none⟩ := by
  rw [evaluate]
  split <;> simp_all

theorem evaluate_of_yield {c c' : Context} {a : Action} {next : List Action}
    (h : a.visit c = .ok (c', some next)) :
    evaluate c a = (evaluateEach c' next).behind ⟨c, a⟩ := by
  rw [evaluate]
  split <;> simp_all

@[simp] theorem evaluateEach_nil (c : Context) : evaluateEach c [] = ⟨[], c, none⟩ := by
  rw [evaluateEach]

@[simp] theorem evaluateEach_cons (c : Context) (a : Action) (l : List Action) :
    evaluateEach c (a :: l) = (evaluate c a).andThen fun d => evaluateEach d l := by
  rw [evaluateEach]

theorem evaluateEach_singleton (c : Context) (a : Action) :
    evaluateEach c [a] = evaluate c a := by
  rw [evaluateEach_cons, Evaluation.andThen]
  cases h : (evaluate c a).failure with
  | some f => rfl
  | none =>
    simp only [evaluateEach_nil, List.append_nil, ← h]

theorem Evaluation.andThen_assoc (e : Evaluation) (f g : Context → Evaluation) :
    (e.andThen f).andThen g = e.andThen fun c => (f c).andThen g := by
  cases hf : e.failure with
  | some _ => simp [andThen, hf]
  | none => cases hf' : (f e.context).failure <;> simp [andThen, hf, hf']

theorem evaluateEach_append (c : Context) (l m : List Action) :
    evaluateEach c (l ++ m) = (evaluateEach c l).andThen fun d => evaluateEach d m := by
  induction l generalizing c with
  | nil => simp [Evaluation.andThen]
  | cons a rest ih =>
    rw [List.cons_append, evaluateEach_cons, evaluateEach_cons, Evaluation.andThen_assoc]
    simp only [ih]

/-- **Induction along the recursion.**  A relation between a list of actions and its evaluation
holds throughout if it holds of no action, of each way a single visit can go, and of an
evaluation with what follows it. -/
theorem evaluation_induction {P : Context → List Action → Evaluation → Prop}
    (nil : ∀ c, P c [] ⟨[], c, none⟩)
    (error : ∀ {c a cause}, a.visit c = .error cause →
      P c [a] ⟨[⟨c, a⟩], c, some ⟨a, cause⟩⟩)
    (done : ∀ {c a c'}, a.visit c = .ok (c', none) → P c [a] ⟨[⟨c, a⟩], c', none⟩)
    (behind : ∀ {c a c' next e}, a.visit c = .ok (c', some next) → P c' next e →
      P c [a] (e.behind ⟨c, a⟩))
    (andThen : ∀ {c a l e} {next : Context → Evaluation}, P c [a] e → (∀ d, P d l (next d)) →
      P c (a :: l) (e.andThen next)) :
    (∀ c a, P c [a] (evaluate c a)) ∧ ∀ c l, P c l (evaluateEach c l) := by
  apply evaluate.mutual_induct
  · intro c a cause h
    rw [evaluate_of_error h]
    exact error h
  · intro c a c' h
    rw [evaluate_of_done h]
    exact done h
  · intro c a c' next h ih
    rw [evaluate_of_yield h]
    exact behind h ih
  · intro c
    rw [evaluateEach_nil]
    exact nil c
  · intro c a rest ih ihs
    rw [evaluateEach_cons]
    exact andThen ih ihs

/-! ## Closing scopes -/

namespace Context

theorem unwindTo_of_le {c : Context} {d : Nat} (h : c.depth ≤ d) : c.unwindTo d = c := by
  unfold unwindTo
  cases hs : c.saved with
  | nil => simp [closeScopes, ← hs]
  | cons s rest =>
    have hd : ¬ d < rest.length + 1 := by
      simp only [depth, hs, List.length_cons] at h
      omega
    simp [closeScopes, hd, ← hs]

theorem unwindTo_of_lt {c c' : Context} {d : Nat} (h : d < c.depth)
    (hc : c.popConfigurations? = some c') : c.unwindTo d = c'.unwindTo d := by
  obtain ⟨s, rest, hs, rfl⟩ := exists_saved_of_pop hc
  have hd : d < rest.length + 1 := by simpa only [depth, hs, List.length_cons] using h
  simp [unwindTo, hs, closeScopes, hd]

/-- An open scope can be closed, and then there is one less. -/
theorem popConfigurations?_of_depth {c : Context} {n : Nat} (h : c.depth = n + 1) :
    ∃ c', c.popConfigurations? = some c' ∧ c'.depth = n := by
  unfold depth at h
  cases hs : c.saved with
  | nil => simp [hs] at h
  | cons s rest =>
    refine ⟨_, popConfigurations?_of_saved hs, ?_⟩
    simpa [depth, hs] using h

/-- Unwinding closes the scopes above a depth one by one. -/
theorem unwindTo_eq_closeTimes (c : Context) (d : Nat) :
    c.unwindTo d = closeTimes (c.depth - d) c := by
  -- on the number of scopes above the depth, so that each step closes one of them
  induction hn : c.depth - d generalizing c with
  | zero => exact unwindTo_of_le (by omega)
  | succ n ih =>
    obtain ⟨c', hc', hd⟩ := popConfigurations?_of_depth (c := c) (n := c.depth - 1) (by omega)
    rw [unwindTo_of_lt (by omega) hc', ih c' (by omega), closeTimes, hc']

/-- Unwinding to the scopes that were there restores the configurations that the outermost of
the others saved. -/
theorem unwindTo_append {c : Context} {opened base : List (OrderedMap String)}
    (h : c.saved = opened ++ base) :
    c.unwindTo base.length =
      { c with configurations := opened.getLast?.getD c.configurations, saved := base } := by
  have hclose : ∀ configurations, closeScopes base.length configurations (opened ++ base) =
      (opened.getLast?.getD configurations, base) := by
    clear h
    induction opened with
    | nil =>
      intro configurations
      cases base <;> simp [closeScopes]
    | cons s rest ih =>
      intro configurations
      have hlt : base.length < (rest ++ base).length + 1 := by
        rw [List.length_append]
        omega
      rw [List.cons_append, closeScopes, if_pos hlt, ih, List.getLast?_cons, Option.getD_some]
  simp only [unwindTo, h, hclose]

end Context

/-! ## The loop follows the recursion -/

namespace Evaluation

/-- **The invariant of the loop.**  Whatever stands behind `work` on the list, the loop makes
the visits of `e`; if these failed it stops there, and otherwise it goes on behind from the
context where they ended. -/
structure Accounts (c : Context) (work : List Action) (e : Evaluation) : Prop where
  loop : ∀ depth n rest, c.visitAll depth n (work ++ rest) =
    match e.failure with
    | some f => (e.context.unwindTo depth, .error f)
    | none => e.context.visitAll depth (n + e.visits.length) rest
  trail : ∀ rest, c.trail (work ++ rest) =
    e.visits ++ match e.failure with
      | some _ => []
      | none => e.context.trail rest

namespace Accounts
variable {c : Context} {a : Action} {l : List Action}

theorem nil (c : Context) : Accounts c [] ⟨[], c, none⟩ :=
  ⟨fun _ _ _ => rfl, fun _ => rfl⟩

/-- A visit that fails. -/
theorem error {cause : ActionError} (h : a.visit c = .error cause) :
    Accounts c [a] ⟨[⟨c, a⟩], c, some ⟨a, cause⟩⟩ := by
  constructor
  · intro depth n rest
    rw [List.singleton_append, Context.visitAll_cons]
    split <;> simp_all
  · intro rest
    rw [List.singleton_append, Context.trail]
    split <;> simp_all

/-- A visit that yields nothing. -/
theorem done {c' : Context} (h : a.visit c = .ok (c', none)) :
    Accounts c [a] ⟨[⟨c, a⟩], c', none⟩ := by
  constructor
  · intro depth n rest
    rw [List.singleton_append, Context.visitAll_cons]
    split <;> simp_all
  · intro rest
    rw [List.singleton_append, Context.trail]
    split <;> simp_all

/-- A visit that yields actions: they are evaluated before what stands behind. -/
theorem behind {c' : Context} {next : List Action} {e : Evaluation}
    (h : a.visit c = .ok (c', some next)) (he : Accounts c' next e) :
    Accounts c [a] (e.behind ⟨c, a⟩) := by
  constructor
  · intro depth n rest
    have hloop := he.loop depth (n + 1) rest
    rw [List.singleton_append, Context.visitAll_cons]
    split <;> simp_all [Evaluation.behind, Nat.add_assoc, Nat.add_comm 1]
  · intro rest
    have htrail := he.trail rest
    rw [List.singleton_append, Context.trail]
    split <;> simp_all [Evaluation.behind]

/-- An evaluation and what follows it. -/
theorem andThen {e : Evaluation} {next : Context → Evaluation} (h : Accounts c [a] e)
    (hl : ∀ d, Accounts d l (next d)) : Accounts c (a :: l) (e.andThen next) := by
  constructor
  · intro depth n rest
    -- to the loop the other actions are just what stands behind the first
    have hloop := h.loop depth n (l ++ rest)
    rw [List.cons_append, ← List.singleton_append, hloop]
    cases hf : e.failure with
    | some f => simp [Evaluation.andThen, hf]
    | none => simp [Evaluation.andThen, hf, (hl e.context).loop, Nat.add_assoc]
  · intro rest
    have htrail := h.trail (l ++ rest)
    rw [List.cons_append, ← List.singleton_append, htrail]
    cases hf : e.failure with
    | some f => simp [Evaluation.andThen, hf]
    | none => simp [Evaluation.andThen, hf, (hl e.context).trail]

end Accounts
end Evaluation

/-- The loop follows the recursion. -/
theorem accounts_evaluate (c : Context) (a : Action) :
    Evaluation.Accounts c [a] (evaluate c a) :=
  (evaluation_induction .nil .error .done .behind .andThen).1 c a

/-- A visit with all that it yields, read off its evaluation. -/
theorem Context.visitDepthFirst_eq (c : Context) (a : Action) :
    c.visitDepthFirst a = match (evaluate c a).failure with
      | none => ((evaluate c a).context, .ok (evaluate c a).visits.length)
      | some f => ((evaluate c a).context.unwindTo c.depth, .error f) := by
  have hloop := (accounts_evaluate c a).loop c.depth 0 []
  rw [List.append_nil] at hloop
  rw [visitDepthFirst, hloop]
  cases (evaluate c a).failure with
  | none => rw [visitAll, Nat.zero_add]
  | some f => rfl

/-- A visit with all that it yields ends in the context of its evaluation, but for the scopes
that a failure closes. -/
theorem Context.fst_visitDepthFirst (c : Context) (a : Action) : ∃ configurations saved,
    (c.visitDepthFirst a).1 =
      { (evaluate c a).context with configurations := configurations, saved := saved } := by
  rw [visitDepthFirst_eq]
  cases (evaluate c a).failure with
  | none => exact ⟨_, _, rfl⟩
  | some f => exact ⟨_, _, rfl⟩

/-- The visits of the loop are those of the evaluation. -/
theorem Context.trail_eq (c : Context) (a : Action) : c.trail [a] = (evaluate c a).visits := by
  have htrail := (accounts_evaluate c a).trail []
  rw [List.append_nil] at htrail
  rw [htrail]
  cases (evaluate c a).failure <;> simp [trail]

/-- A visit with all that it yields only goes on, even when it fails. -/
theorem Context.continues_visitDepthFirst (c : Context) (a : Action) :
    c.Continues (c.visitDepthFirst a).1 := by
  have heval : c.Continues (evaluate c a).context := by
    refine (evaluation_induction (P := fun c _ e => c.Continues e.context)
      .refl (fun _ => .refl _) Action.continues_of_visit ?_ ?_).1 c a
    · intro c a c' next e hv he
      exact (Action.continues_of_visit hv).trans he
    · intro c a l e next he hnext
      unfold Evaluation.andThen
      cases e.failure with
      | some f => exact he
      | none => exact he.trans (hnext e.context)
  -- the scopes that a failure closes are no part of the bookkeeping
  obtain ⟨configurations, saved, hcontext⟩ := c.fst_visitDepthFirst a
  rw [hcontext]
  exact heval.trans (.of_eq rfl rfl rfl rfl)

/-! ## How an evaluation ends, and how many visits it takes -/

namespace Evaluation

/-- **What the visits of an evaluation tell.**  All of them succeed, but for the last one when
the evaluation failed; they are at most as many as the actions weigh, and exactly as many when
all went well and no condition skipped anything. -/
structure Tallies (l : List Action) (e : Evaluation) : Prop where
  ending : match e.failure with
    | some f => ∃ before, e.visits = before ++ [⟨e.context, f.action⟩] ∧
        (∀ v ∈ before, v.Succeeds) ∧ f.action.visit e.context = .error f.cause
    | none => ∀ v ∈ e.visits, v.Succeeds
  length_le : e.visits.length ≤ Action.totalWeight l
  length_eq : e.failure = none → (∀ v ∈ e.visits, ¬ v.IsSkip) →
    e.visits.length = Action.totalWeight l

namespace Tallies
variable {c : Context} {a : Action} {l : List Action}

theorem nil (c : Context) : Tallies [] ⟨[], c, none⟩ :=
  ⟨fun _ hv => absurd hv List.not_mem_nil, by simp, fun _ _ => by simp⟩

theorem error {cause : ActionError} (h : a.visit c = .error cause) :
    Tallies [a] ⟨[⟨c, a⟩], c, some ⟨a, cause⟩⟩ := by
  refine ⟨⟨[], rfl, fun _ hv => absurd hv List.not_mem_nil, h⟩, ?_, fun hf => nomatch hf⟩
  simpa using Nat.succ_le_of_lt a.weight_pos

theorem done {c' : Context} (h : a.visit c = .ok (c', none)) :
    Tallies [a] ⟨[⟨c, a⟩], c', none⟩ := by
  refine ⟨?_, by simpa using Nat.succ_le_of_lt a.weight_pos, ?_⟩
  · intro v hv
    rw [List.mem_singleton] at hv
    exact hv ▸ ⟨_, h⟩
  · intro _ hskip
    rcases Action.visit_cases h with ⟨hrun, -, -⟩ | ⟨-, hx⟩
    · exact absurd hrun (hskip _ (List.mem_singleton_self _))
    · simp [hx.weight_eq]

theorem behind {c' : Context} {next : List Action} {e : Evaluation}
    (h : a.visit c = .ok (c', some next)) (he : Tallies next e) :
    Tallies [a] (e.behind ⟨c, a⟩) := by
  -- the visit of the action itself is what the action weighs more than its yield
  have hweight : a.weight = 1 + Action.totalWeight next := by
    rcases Action.visit_cases h with ⟨-, -, hnone⟩ | ⟨-, hx⟩
    · cases hnone
    · exact hx.weight_eq
  refine ⟨?_, ?_, ?_⟩
  · have hend := he.ending
    cases hf : e.failure with
    | some f =>
      simp only [hf, Evaluation.behind] at hend ⊢
      obtain ⟨before, hv, hs, hfail⟩ := hend
      refine ⟨⟨c, a⟩ :: before, by rw [hv, List.cons_append], ?_, hfail⟩
      exact List.forall_mem_cons.mpr ⟨⟨_, h⟩, hs⟩
    | none =>
      simp only [hf, Evaluation.behind] at hend ⊢
      exact List.forall_mem_cons.mpr ⟨⟨_, h⟩, hend⟩
  · have := he.length_le
    simp only [Evaluation.behind, List.length_cons, Action.totalWeight_cons,
      Action.totalWeight_nil]
    omega
  · intro hf hskip
    have := he.length_eq hf fun v hv => hskip v (List.mem_cons_of_mem _ hv)
    simp only [Evaluation.behind, List.length_cons, Action.totalWeight_cons,
      Action.totalWeight_nil]
    omega

theorem andThen {e : Evaluation} {next : Context → Evaluation} (h : Tallies [a] e)
    (hl : ∀ d, Tallies l (next d)) : Tallies (a :: l) (e.andThen next) := by
  have hle := h.length_le
  have hle' := (hl e.context).length_le
  have hend := h.ending
  have hend' := (hl e.context).ending
  simp only [Action.totalWeight_cons, Action.totalWeight_nil] at hle
  cases hf : e.failure with
  | some f =>
    simp only [hf] at hend
    refine ⟨?_, ?_, ?_⟩
    · simpa [Evaluation.andThen, hf] using hend
    · simp only [Evaluation.andThen, hf, Action.totalWeight_cons]
      omega
    · intro hnone
      simp [Evaluation.andThen, hf] at hnone
  | none =>
    simp only [hf] at hend
    refine ⟨?_, ?_, ?_⟩
    · cases hf' : (next e.context).failure with
      | some f =>
        simp only [hf'] at hend'
        obtain ⟨before, hv, hs, hfail⟩ := hend'
        simp only [Evaluation.andThen, hf, hf']
        refine ⟨e.visits ++ before, by rw [hv, List.append_assoc], ?_, hfail⟩
        exact List.forall_mem_append.mpr ⟨hend, hs⟩
      | none =>
        simp only [hf'] at hend'
        simp only [Evaluation.andThen, hf, hf']
        exact List.forall_mem_append.mpr ⟨hend, hend'⟩
    · simp only [Evaluation.andThen, hf, Action.totalWeight_cons, List.length_append]
      omega
    · intro hnone hskip
      simp only [Evaluation.andThen, hf] at hnone hskip
      obtain ⟨hskip, hskip'⟩ := List.forall_mem_append.mp hskip
      have heq := h.length_eq hf hskip
      have heq' := (hl e.context).length_eq hnone hskip'
      simp only [Action.totalWeight_cons, Action.totalWeight_nil] at heq
      simp only [Evaluation.andThen, hf, Action.totalWeight_cons, List.length_append]
      omega

end Tallies
end Evaluation

theorem tallies_evaluate (c : Context) (a : Action) : Evaluation.Tallies [a] (evaluate c a) :=
  (evaluation_induction (P := fun _ l e => Evaluation.Tallies l e)
    .nil .error .done .behind .andThen).1 c a

/-- The last action visited by an evaluation that failed is the one that failed. -/
theorem getLast?_of_failure {c : Context} {l : List Action} {f : Failure}
    (hf : (evaluateEach c l).failure = some f) :
    ((evaluateEach c l).visits.map Visit.action).getLast? = some f.action := by
  have htally : Evaluation.Tallies l (evaluateEach c l) :=
    (evaluation_induction (P := fun _ l e => Evaluation.Tallies l e)
      .nil .error .done .behind .andThen).2 c l
  have hend := htally.ending
  rw [hf] at hend
  obtain ⟨before, hvisits, -, -⟩ := hend
  rw [hvisits, List.map_append, List.map_singleton, List.getLast?_concat]

/-! ## The scopes of the entry -/

/-- A visit that leaves at least as many scopes as there were of old leaves the old ones. -/
theorem Action.saved_of_visit {c c' : Context} {a : Action} {next : Option (List Action)}
    (h : a.visit c = .ok (c', next)) {opened base : List (OrderedMap String)}
    (hc : c.saved = opened ++ base) (hdepth : base.length ≤ c'.depth) :
    ∃ opened', c'.saved = opened' ++ base := by
  rcases visit_cases h with ⟨-, rfl, -⟩ | ⟨-, hx⟩
  · exact ⟨opened, hc⟩
  by_cases hpush : a = .pushConfigurations
  · subst hpush
    cases hx
    exact ⟨c.configurations :: opened, by rw [List.cons_append, ← hc]; rfl⟩
  by_cases hpop : a = .popConfigurations
  · subst hpop
    cases hx with
    | popConfigurations hpop =>
      obtain ⟨s, rest, hs, rfl⟩ := Context.exists_saved_of_pop hpop
      rw [hs] at hc
      cases opened with
      | nil =>
        -- the scope that was closed was an old one, so one is missing
        have hlen : rest.length + 1 = base.length := by
          rw [← List.length_cons, hc, List.nil_append]
        simp only [Context.depth] at hdepth
        omega
      | cons s' opened =>
        rw [List.cons_append, List.cons.injEq] at hc
        exact ⟨opened, hc.2⟩
  · exact ⟨opened, by rw [hx.saved_eq hpush hpop, hc]⟩

namespace Evaluation

/-- **An evaluation never closes an old scope** if all its visits, and its end, find at least as
many scopes as there are old ones. -/
structure KeepsScopes (c : Context) (e : Evaluation) : Prop where
  start : ∀ n, (∀ v ∈ e.visits, n ≤ v.context.depth) → n ≤ e.context.depth → n ≤ c.depth
  saved : ∀ opened base, c.saved = opened ++ base →
    (∀ v ∈ e.visits, base.length ≤ v.context.depth) → base.length ≤ e.context.depth →
    ∃ opened', e.context.saved = opened' ++ base

namespace KeepsScopes
variable {c : Context} {a : Action}

theorem nil (c : Context) : KeepsScopes c ⟨[], c, none⟩ :=
  ⟨fun _ _ hend => hend, fun opened _ hc _ _ => ⟨opened, hc⟩⟩

theorem error (f : Failure) : KeepsScopes c ⟨[⟨c, a⟩], c, some f⟩ :=
  ⟨fun _ _ hend => hend, fun opened _ hc _ _ => ⟨opened, hc⟩⟩

theorem done {c' : Context} (h : a.visit c = .ok (c', none)) :
    KeepsScopes c ⟨[⟨c, a⟩], c', none⟩ := by
  constructor
  · intro n hvisits _
    exact hvisits _ (List.mem_singleton_self _)
  · intro opened base hc _ hend
    exact Action.saved_of_visit h hc hend

theorem behind {c' : Context} {next : List Action} {e : Evaluation}
    (h : a.visit c = .ok (c', some next)) (he : KeepsScopes c' e) :
    KeepsScopes c (e.behind ⟨c, a⟩) := by
  constructor
  · intro n hvisits _
    exact hvisits _ List.mem_cons_self
  · intro opened base hc hvisits hend
    have hrest : ∀ v ∈ e.visits, base.length ≤ v.context.depth :=
      fun v hv => hvisits v (List.mem_cons_of_mem _ hv)
    obtain ⟨opened', hc'⟩ := Action.saved_of_visit h hc (he.start _ hrest hend)
    exact he.saved opened' base hc' hrest hend

theorem andThen {e : Evaluation} {next : Context → Evaluation} (h : KeepsScopes c e)
    (hl : ∀ d, KeepsScopes d (next d)) : KeepsScopes c (e.andThen next) := by
  unfold Evaluation.andThen
  cases e.failure with
  | some f => exact h
  | none =>
    constructor
    · intro n hvisits hend
      obtain ⟨hfirst, hrest⟩ := List.forall_mem_append.mp hvisits
      exact h.start n hfirst ((hl e.context).start n hrest hend)
    · intro opened base hc hvisits hend
      obtain ⟨hfirst, hrest⟩ := List.forall_mem_append.mp hvisits
      -- the rest starts with enough scopes, so the first part may be asked for its own
      obtain ⟨opened', hmiddle⟩ :=
        h.saved opened base hc hfirst ((hl e.context).start _ hrest hend)
      exact (hl e.context).saved opened' base hmiddle hrest hend

end KeepsScopes
end Evaluation

theorem keepsScopes_evaluate (c : Context) (a : Action) :
    Evaluation.KeepsScopes c (evaluate c a) :=
  (evaluation_induction (P := fun c _ e => Evaluation.KeepsScopes c e)
    .nil (fun _ => .error _) .done .behind .andThen).1 c a

/-- **The loop is the recursion.**  It makes the same visits in the same order, and they are at
most as many as the action weighs.  Without a failure it ends in the same context and counts the
same visits, which are exactly as many as the action weighs when no condition skipped one.  At
a failure it stops with the action that failed and its cause, which is the last one visited,
and the context is that of the failure with the scopes above the depth at the entry closed.
Unless a scope of the entry was closed before, the scopes left are then those of the entry. -/
theorem visitDepthFirst_eq_evaluate (c : Context) (a : Action) :
    c.trail [a] = (evaluate c a).visits ∧
      (evaluate c a).visits.length ≤ a.weight ∧
      match (evaluate c a).failure with
      | none =>
        c.visitDepthFirst a = ((evaluate c a).context, .ok (evaluate c a).visits.length) ∧
          (∀ v ∈ (evaluate c a).visits, v.Succeeds) ∧
          ((∀ v ∈ (evaluate c a).visits, ¬ v.IsSkip) → (evaluate c a).visits.length = a.weight)
      | some f =>
        c.visitDepthFirst a =
            ((evaluate c a).context.closeTimes ((evaluate c a).context.depth - c.depth), .error f) ∧
          (∃ before, (evaluate c a).visits = before ++ [⟨(evaluate c a).context, f.action⟩] ∧
            (∀ v ∈ before, v.Succeeds) ∧
              f.action.visit (evaluate c a).context = .error f.cause) ∧
          ((∀ v ∈ (evaluate c a).visits, c.depth ≤ v.context.depth) →
            (c.visitDepthFirst a).1.saved = c.saved) := by
  have htally := tallies_evaluate c a
  have hend := htally.ending
  have hle := htally.length_le
  simp only [Action.totalWeight_cons, Action.totalWeight_nil, Nat.add_zero] at hle
  refine ⟨c.trail_eq a, hle, ?_⟩
  rw [Context.visitDepthFirst_eq]
  cases hf : (evaluate c a).failure with
  | none =>
    simp only [hf] at hend ⊢
    refine ⟨trivial, hend, ?_⟩
    intro hskip
    have := htally.length_eq hf hskip
    simpa using this
  | some f =>
    simp only [hf] at hend ⊢
    refine ⟨by rw [Context.unwindTo_eq_closeTimes], hend, ?_⟩
    intro hdepth
    -- the context of the failure is that of the last visit
    obtain ⟨before, hvisits, -, -⟩ := hend
    have hlast : c.depth ≤ (evaluate c a).context.depth :=
      hdepth ⟨(evaluate c a).context, f.action⟩ (by rw [hvisits]; exact List.mem_concat_self)
    obtain ⟨opened, hopened⟩ := (keepsScopes_evaluate c a).saved [] c.saved rfl hdepth hlast
    show ((evaluate c a).context.unwindTo c.saved.length).saved = c.saved
    rw [Context.unwindTo_append hopened]

end LaunchPlan
