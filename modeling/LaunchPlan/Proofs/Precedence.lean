import LaunchPlan.Proofs.Current
import LaunchPlan.Proofs.Scope

/-! # Values given from outside come first

An argument that is declared keeps the value it has.  So a value that is given before the
launch wins over the default that a description declares, wherever it declares it: in a scope,
in a handler that runs later, or under a name that only turns out to be the same once it is
resolved.

The reason is that launch configurations only gain entries as long as no action sets or replaces
any.  At every visit they extend those of the beginning (`OrderedMap.Extends`), and so does each
map that a scope opened since has saved (`Context.Gains`).  What closing a scope puts back,
also after a failure, is therefore again an extension of the beginning.
-/
namespace LaunchPlan

/-! ## Maps that gain entries -/

namespace OrderedMap
variable {α : Type} {m n o : OrderedMap α}

/-- The map `n` begins with the entries of `m`: it has all names of `m` with the same values and
in the same order, and any other names behind them. -/
def Extends (n m : OrderedMap α) : Prop := m.entries <+: n.entries

namespace Extends

theorem refl (m : OrderedMap α) : m.Extends m := List.prefix_rfl

theorem trans (h : o.Extends n) (h' : n.Extends m) : o.Extends m := List.IsPrefix.trans h' h

theorem insert {name : String} {a : α} (h : m.contains name = false) :
    (m.insert name a).Extends m := by
  have hnew : name ∉ m.keys := by
    rw [← contains_iff_mem_keys, h]
    exact Bool.false_ne_true
  rw [Extends, entries_insert_of_not_mem hnew]
  exact List.prefix_append _ _

/-- A value that is there stays. -/
theorem get? {name : String} {a : α} (h : n.Extends m) (ha : m.get? name = some a) :
    n.get? name = some a := by
  obtain ⟨rest, hrest⟩ := h
  rw [OrderedMap.get?] at ha
  rw [OrderedMap.get?, ← hrest, List.lookup_append, ha, Option.some_or]

end Extends
end OrderedMap

/-- **From `c` to `d` the launch configurations have only gained entries**, and so have those
that the scopes opened since have saved. -/
structure Context.Gains (c d : Context) : Prop where
  configurations : d.configurations.Extends c.configurations
  saved : ∃ opened, d.saved = opened ++ c.saved ∧ ∀ s ∈ opened, s.Extends c.configurations

namespace Context.Gains
variable {c d e : Context}

theorem of_saved_eq (h : d.configurations.Extends c.configurations) (hs : d.saved = c.saved) :
    c.Gains d :=
  ⟨h, [], hs, fun _ hm => absurd hm List.not_mem_nil⟩

theorem refl (c : Context) : c.Gains c := of_saved_eq (.refl _) rfl

theorem trans (h : c.Gains d) (h' : d.Gains e) : c.Gains e := by
  obtain ⟨opened, hsaved, hopened⟩ := h.saved
  obtain ⟨opened', hsaved', hopened'⟩ := h'.saved
  refine ⟨h'.configurations.trans h.configurations, opened' ++ opened, ?_, ?_⟩
  · rw [hsaved', hsaved, List.append_assoc]
  · exact List.forall_mem_append.mpr
      ⟨fun s hs => (hopened' s hs).trans h.configurations, hopened⟩

theorem push (c : Context) : c.Gains c.pushConfigurations :=
  ⟨.refl _, [c.configurations], rfl, List.forall_mem_singleton.mpr (.refl _)⟩

end Context.Gains

/-! ## Actions that only declare -/

namespace Action

/-- The action touches launch configurations only to declare an argument.  It is no mark of a
scope either. -/
def OnlyDeclares : Action → Prop
  | setConfiguration .. | resetConfigurations .. | pushConfigurations | popConfigurations => False
  | _ => True

theorem OnlyDeclares.not_isMark {a : Action} (h : a.OnlyDeclares) : ¬ a.IsMark := by
  rintro (rfl | rfl) <;> exact h

theorem Throughout.hasNoMark_of_onlyDeclares {a : Action} (h : a.Throughout OnlyDeclares) :
    a.HasNoMark := fun b hb => (h b hb.reaches).not_isMark

theorem Executes.gains {c c' : Context} {a : Action} {next : Option (List Action)}
    (hx : Executes c a c' next) (ha : a.OnlyDeclares) : c.Gains c' := by
  refine .of_saved_eq ?_ (hx.saved_eq (fun h => ha.not_isMark (.inl h))
    fun h => ha.not_isMark (.inr h))
  cases hx with
  | declareDefault _ habsent _ => exact .insert habsent
  | shutdown =>
    show c.noteRequired.configurations.Extends c.configurations
    unfold Context.noteRequired
    split <;> exact .refl _
  | setConfiguration | resetConfigurations | pushConfigurations | popConfigurations =>
    exact absurd ha id
  | _ => exact .refl _

theorem gains_of_visit {c c' : Context} {a : Action} {next : Option (List Action)}
    (h : a.visit c = .ok (c', next)) (ha : a.OnlyDeclares) : c.Gains c' := by
  rcases visit_cases h with ⟨-, rfl, -⟩ | ⟨-, hx⟩
  · exact .of_saved_eq (.refl _) rfl
  · exact hx.gains ha

end Action

/-! ## Evaluations -/

namespace Evaluation

/-- Every visit of the evaluation, and its end, finds the launch configurations of the beginning
extended. -/
structure Gains (c : Context) (e : Evaluation) : Prop where
  visits : ∀ v ∈ e.visits, c.Gains v.context
  context : c.Gains e.context

theorem Gains.of_gains {c d : Context} {e : Evaluation} (hd : c.Gains d) (h : Gains d e) :
    Gains c e :=
  ⟨fun v hv => hd.trans (h.visits v hv), hd.trans h.context⟩

theorem Gains.behind {c : Context} {e : Evaluation} (h : Gains c e) (a : Action) :
    Gains c (e.behind ⟨c, a⟩) :=
  ⟨List.forall_mem_cons.mpr ⟨.refl c, h.visits⟩, h.context⟩

theorem gains_evaluateEach {l : List Action} (h : ∀ a ∈ l, ∀ c, Gains c (evaluate c a))
    (c : Context) : Gains c (evaluateEach c l) := by
  induction l generalizing c with
  | nil =>
    rw [evaluateEach_nil]
    exact ⟨fun _ hv => absurd hv List.not_mem_nil, .refl c⟩
  | cons a rest ih =>
    have hhead := h a List.mem_cons_self c
    have hrest := ih (fun b hb => h b (List.mem_cons_of_mem _ hb)) (evaluate c a).context
    rw [evaluateEach_cons, andThen]
    cases (evaluate c a).failure with
    | some f => exact hhead
    | none =>
      have hrest' := Gains.of_gains hhead.context hrest
      exact ⟨List.forall_mem_append.mpr ⟨hhead.visits, hrest'.visits⟩, hrest'.context⟩

/-- Actions between the two marks of a scope: closing it puts back the launch configurations of
the beginning. -/
theorem gains_scope {l : List Action} (hr : ∀ c, Restores c (evaluateEach c l))
    (h : ∀ c, Gains c (evaluateEach c l)) (c : Context) :
    Gains c (evaluateEach c (.pushConfigurations :: (l ++ [.popConfigurations]))) := by
  have hinside := Gains.of_gains (.push c) (h c.pushConfigurations)
  have hclosed := (hr c.pushConfigurations).closed
  cases hf : (evaluateEach c.pushConfigurations l).failure with
  | some f =>
    rw [evaluateEach_scope_of_failure hf]
    exact hinside.behind _
  | none =>
    rw [evaluateEach_scope_of_saved hf (hclosed hf)]
    refine ⟨List.forall_mem_cons.mpr ⟨.refl c, List.forall_mem_append.mpr ⟨hinside.visits, ?_⟩⟩,
      .of_saved_eq (.refl _) rfl⟩
    exact List.forall_mem_singleton.mpr hinside.context

/-- A visit of an action that only declares gains entries if what it yields does. -/
theorem gains_of_yield {c : Context} {a : Action} (ha : a.OnlyDeclares)
    (hn : ∀ next, a.visit c = .ok (c, some next) → Gains c (evaluateEach c next)) :
    Gains c (evaluate c a) := by
  cases hv : a.visit c with
  | error cause =>
    rw [evaluate_of_error hv]
    exact ⟨List.forall_mem_singleton.mpr (.refl c), .refl c⟩
  | ok effect =>
    obtain ⟨c', _ | next⟩ := effect
    · rw [evaluate_of_done hv]
      exact ⟨List.forall_mem_singleton.mpr (.refl c), Action.gains_of_visit hv ha⟩
    · obtain ⟨rfl, -⟩ := Action.group_of_yield hv
      rw [evaluate_of_yield hv]
      exact (hn next hv).behind a

theorem gains_evaluate {a : Action} (ha : ∀ b, Action.Within b a → b.OnlyDeclares)
    (c : Context) : Gains c (evaluate c a) := by
  induction a using Action.group_induction generalizing c with
  | leaf a hleaf =>
    refine gains_of_yield (ha a (.self a)) ?_
    intro next hv
    obtain ⟨-, cond, isScoped, actions, rfl, -⟩ := Action.group_of_yield hv
    exact absurd rfl (hleaf cond isScoped actions)
  | group cond isScoped actions ih =>
    have hwithin : ∀ b ∈ actions, ∀ x, Action.Within x b → x.OnlyDeclares :=
      fun b hb x hx => ha x (.group hb hx)
    have hall := gains_evaluateEach fun b hb => ih b hb (hwithin b hb)
    have hr := restores_evaluateEach fun b hb =>
      restores_evaluate fun x hx => (hwithin b hb x hx).not_isMark
    refine gains_of_yield (ha _ (.self _)) ?_
    intro next hv
    obtain ⟨-, _, _, _, heq, rfl⟩ := Action.group_of_yield hv
    cases heq
    cases isScoped with
    | false => exact hall c
    | true => exact gains_scope hr hall c

end Evaluation

/-! ## Visits with all that they yield -/

section Visits
variable {a : Action} (ha : a.Throughout Action.OnlyDeclares) (c : Context)
include ha

theorem Context.gains_of_mem_trail {v : Visit} (hv : v ∈ c.trail [a]) : c.Gains v.context := by
  rw [c.trail_eq] at hv
  exact (Evaluation.gains_evaluate (fun b hb => ha b hb.reaches) c).visits v hv

/-- What is left after a visit, whether it failed or not, extends what it found. -/
theorem Context.extends_visitDepthFirst :
    (c.visitDepthFirst a).1.configurations.Extends c.configurations := by
  have hgains := Evaluation.gains_evaluate (fun b hb => ha b hb.reaches) c
  rw [c.visitDepthFirst_eq]
  cases (evaluate c a).failure with
  | none => exact hgains.context.configurations
  | some f =>
    obtain ⟨opened, hsaved, hopened⟩ := hgains.context.saved
    rw [Context.depth, Context.unwindTo_append hsaved]
    -- the outermost scope that was left open gives back what it had saved
    cases hlast : opened.getLast? with
    | none => exact hgains.context.configurations
    | some s => exact hopened s (List.mem_of_getLast? hlast)

end Visits

/-! ## Calls -/

namespace Service

/-- The service after some calls, one after the other; a call that fails ends none of them. -/
def calls (s : Service) (ks : List Call) : Service := ks.foldl (fun s k => (s.call k).1) s

/-- Neither the description nor the handlers registered by now can come to run anything that
touches launch configurations but to declare arguments. -/
def OnlyDeclares (s : Service) (k : Call) : Prop :=
  (∀ a ∈ k.actions, a.Throughout Action.OnlyDeclares) ∧
    s.context.HandlersHave Action.OnlyDeclares

end Service

/-- **A call that keeps what was given**, whatever it answers.

* `after`, `visits`: at the end and at every visit the launch configurations are those of the
  beginning, in their order, with any others behind them; and so are all that were saved since.
* `values`: hence every value of the beginning is there throughout.
* `handlers`: the handlers that are registered at the end still only declare. -/
structure KeepsGiven (s : Service) (k : Service.Call) : Prop where
  after : (s.call k).1.context.configurations.Extends s.context.configurations
  visits : ∀ m ∈ s.moments k, ∀ v ∈ m.visits, s.context.Gains v.context
  values : ∀ name value, s.context.configurations.get? name = some value →
    (s.call k).1.context.configurations.get? name = some value ∧
      ∀ m ∈ s.moments k, ∀ v ∈ m.visits, v.context.configurations.get? name = some value
  handlers : (s.call k).1.context.HandlersHave Action.OnlyDeclares

theorem keepsGiven {s : Service} {k : Service.Call} (h : s.OnlyDeclares k) : KeepsGiven s k := by
  obtain ⟨⟨hhandlers, hgains⟩, hroots⟩ := (s.path_call k).invariant
    (I := fun c => c.HandlersHave Action.OnlyDeclares ∧
      c.saved = s.context.saved ∧ c.configurations.Extends s.context.configurations)
    (Q := fun a => a.Throughout Action.OnlyDeclares) ⟨h.2, rfl, .refl _⟩
    (fun u a ha => h.1 a (Service.mem_actions_of_entity ha))
    (fun hc hd => ⟨by rw [Context.HandlersHave, hd.handlers]; exact hc.1,
      hd.saved.trans hc.2.1, hd.configurations ▸ hc.2.2⟩)
    (fun hc => hc.1)
    (fun ha hc => ⟨hc.1.visitDepthFirst ha,
      (scopeBalance_of_hasNoMark ha.hasNoMark_of_onlyDeclares _).saved.trans hc.2.1,
      (Context.extends_visitDepthFirst ha _).trans hc.2.2⟩)
  have hvisits : ∀ m ∈ s.moments k, ∀ v ∈ m.visits, s.context.Gains v.context := by
    intro m hm v hv
    obtain ⟨root, hroot, hv⟩ := List.mem_flatMap.mp hv
    obtain ⟨⟨-, hsaved, hextends⟩, ha⟩ := hroots m hm root hroot
    exact (Context.Gains.of_saved_eq hextends hsaved).trans (Context.gains_of_mem_trail ha _ hv)
  exact
    { after := hgains.2
      visits := hvisits
      values := fun name value hvalue => ⟨hgains.2.get? hvalue,
        fun m hm v hv => (hvisits m hm v hv).configurations.get? hvalue⟩
      handlers := hhandlers }

/-- Calls that only declare keep what was given, one after the other. -/
theorem Service.extends_calls {s : Service} {ks : List Call}
    (hs : s.context.HandlersHave Action.OnlyDeclares)
    (hks : ∀ k ∈ ks, ∀ a ∈ k.actions, a.Throughout Action.OnlyDeclares) :
    (s.calls ks).context.HandlersHave Action.OnlyDeclares ∧
      (s.calls ks).context.configurations.Extends s.context.configurations := by
  induction ks generalizing s with
  | nil => exact ⟨hs, .refl _⟩
  | cons k rest ih =>
    have hkeeps := keepsGiven ⟨hks k List.mem_cons_self, hs⟩
    obtain ⟨hend, hextends⟩ :=
      ih hkeeps.handlers fun k' hk' => hks k' (List.mem_cons_of_mem _ hk')
    exact ⟨hend, hextends.trans hkeeps.after⟩

/-- **Values given from outside win.**  Calls that touch launch configurations only to declare
arguments keep all that they find.  For a service that was set up and any such calls, the launch
arguments are there before each of them, ahead of all that was declared since, and so they are
at every visit and in the end. -/
theorem given_values_win :
    (∀ (s : Service) (k : Service.Call), s.OnlyDeclares k → KeepsGiven s k) ∧
      ∀ (config : ServiceConfig) (environment : OrderedMap String) (ks : List Service.Call)
        (k : Service.Call),
        (∀ k' ∈ k :: ks, ∀ a ∈ k'.actions, a.Throughout Action.OnlyDeclares) →
        ((Service.ofConfig config environment).calls ks).context.configurations.Extends
            config.arguments ∧
          KeepsGiven ((Service.ofConfig config environment).calls ks) k := by
  refine ⟨fun s k h => keepsGiven h, ?_⟩
  intro config environment ks k h
  obtain ⟨hk, hks⟩ := List.forall_mem_cons.mp h
  have hcontext := Service.context_ofConfig config environment
  -- a service that was set up has no handlers, and its configurations are the arguments
  have hstart : (Service.ofConfig config environment).context.HandlersHave
      Action.OnlyDeclares := by
    rw [hcontext]
    exact fun _ hh => absurd hh List.not_mem_nil
  obtain ⟨hhandlers, hextends⟩ := Service.extends_calls hstart hks
  rw [hcontext] at hextends
  exact ⟨hextends, keepsGiven ⟨hk, hhandlers⟩⟩

/-- A service that is given a rate, and the name under which it is declared. -/
def rateConfig : ServiceConfig := .ofArguments (.ofList [("which", "rate"), ("rate", "30")])

/-- A description that declares the rate, under a name that is looked up, and again in a scope
where an argument is missing; a handler that it registers declares it once more. -/
def rateDescription : Description where
  actions :=
    [.register none ⟨"exit", .processExited, none,
        [.declareArgument none (.literal "rate") (some (.literal "5")) none]⟩,
      .declareArgument none [.configuration [.text "which"] none] (some (.literal "10")) none,
      .declareArgument none (.literal "name") (some (.literal "talker")) none,
      .group none true [.declareArgument none (.literal "rate") (some (.literal "20")) none,
        .declareArgument none (.literal "inside") (some (.literal "1")) none,
        .declareArgument none (.literal "required") none none]]

/-- The service after the run, which fails for the missing argument. -/
def rateService : Service := (Service.ofConfig rateConfig .empty).calls [.run rateDescription]

/-- What was declared at the top came in addition to what was given, and what was declared in
the scope is gone.  The rate is still the one given, also once the handler has run. -/
theorem given_values_win_rate :
    ((Service.ofConfig rateConfig .empty).call (.run rateDescription)).2.isSome = true ∧
      rateService.context.configurations.entries =
        [("which", "rate"), ("rate", "30"), ("name", "talker")] ∧
      KeepsGiven rateService (.deliver (.processExited "talker" none none)) ∧
      (rateService.call (.deliver (.processExited "talker" none none))).1.context.configurations.get?
        "rate" = some "30" := by
  have hdescription : ∀ a ∈ rateDescription.actions, a.Throughout Action.OnlyDeclares := by
    have hleaf : ∀ name default description,
        (Action.declareArgument none name default description).Throughout Action.OnlyDeclares :=
      fun _ _ _ => Action.throughout_of_leaf nofun nofun trivial
    simp [rateDescription, hleaf, Action.OnlyDeclares]
  have hcalls : ∀ k' ∈ [Service.Call.deliver (.processExited "talker" none none),
      .run rateDescription], ∀ a ∈ k'.actions, a.Throughout Action.OnlyDeclares := by
    simpa [Service.Call.actions] using hdescription
  obtain ⟨hextends, hkeeps⟩ := given_values_win.2 rateConfig .empty [.run rateDescription]
    (.deliver (.processExited "talker" none none)) hcalls
  have hrate : rateConfig.arguments.get? "rate" = some "30" := by cbv
  exact ⟨by cbv, by cbv, hkeeps, (hkeeps.values _ _ (hextends.get? hrate)).1⟩

end LaunchPlan
