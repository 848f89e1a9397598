import LaunchPlan.Proofs.Atomic
import LaunchPlan.Proofs.Current

/-! # Emitting never dispatches

To emit an event is to queue it.  While an action is visited with all that it yields, events
gather behind those that wait already, one for each emission that is executed, in the order of
execution (`Evaluation.Emits`).  None is taken off the queue, none becomes the event at hand,
and no handler runs, however the visit ends.

That no handler runs is said in two ways.  The actions visited are those of the tree and the
marks of its scopes.  And with other handlers registered in the place of those that are, which
may react to other events and hold other actions, the visit goes the same: only the identities
of handlers have an influence, on what is unregistered (`Evaluation.Mirrors`).
-/
namespace LaunchPlan

/-! ## What a visit emits -/

namespace Action

/-- The execution of the action emits an event. -/
def IsEmission : Action → Prop
  | emit .. | shutdown .. => True
  | _ => False

/-- The action, if it executes, emits this event: an emission its own, and a shutdown the request
with its reason. -/
def Emits (c : Context) (e : Event) : Action → Prop
  | emit _ event => e = event
  | shutdown _ reason => ∃ r, c.value reason = .ok r ∧ e = .shutdown r false
  | _ => False

end Action

namespace Visit

/-- The visit executes its action: the condition lets it run, and the execution succeeds. -/
def IsExecution (v : Visit) : Prop :=
  v.action.mayRun v.context = .ok true ∧ ∃ effect, v.action.execute v.context = .ok effect

/-- The event that a visit emits: that of an emission, or the request of a shutdown. -/
def emission? (v : Visit) : Option Event :=
  match v.action, v.action.mayRun v.context with
  | .emit _ e, .ok true => some e
  | _, _ => v.request?.map (Event.shutdown · false)

variable {v : Visit} {e : Event}

theorem emission?_eq_some_iff :
    v.emission? = some e ↔ v.action.mayRun v.context = .ok true ∧ v.action.Emits v.context e := by
  obtain ⟨c, a⟩ := v
  constructor
  · intro h
    unfold emission? at h
    split at h
    · rename_i cond event ha hrun
      cases h
      cases ha
      exact ⟨hrun, rfl⟩
    · obtain ⟨r, hr, rfl⟩ := Option.map_eq_some_iff.mp h
      obtain ⟨cond, reason, ha, hrun, hvalue⟩ := request?_eq_some_iff.mp hr
      cases ha
      exact ⟨hrun, r, hvalue, rfl⟩
  · rintro ⟨hrun, he⟩
    cases a with
    | emit cond event =>
      cases he
      simp only [emission?, hrun]
    | shutdown cond reason =>
      obtain ⟨r, hvalue, rfl⟩ := he
      exact Option.map_eq_some_iff.mpr
        ⟨r, request?_eq_some_iff.mpr ⟨cond, reason, rfl, hrun, hvalue⟩, rfl⟩
    | _ => exact absurd he id

/-- Each emission and each shutdown that executes emits an event, and nothing else does. -/
theorem isSome_emission?_iff : v.emission?.isSome = true ↔ v.IsExecution ∧ v.action.IsEmission := by
  obtain ⟨c, a⟩ := v
  rw [Option.isSome_iff_exists]
  simp only [emission?_eq_some_iff, IsExecution]
  cases a with
  | emit cond event => simp [Action.Emits, Action.IsEmission, Action.execute]
  | shutdown cond reason => simp [Action.Emits, Action.IsEmission, Action.execute, bind_eq_ok_iff]
  | _ => simp [Action.Emits, Action.IsEmission]

/-- A visit that executes nothing emits nothing. -/
theorem emission?_eq_none (h : ¬ v.IsExecution) : v.emission? = none := by
  rw [← Option.not_isSome_iff_eq_none, isSome_emission?_iff]
  exact fun hv => h hv.1

theorem not_isExecution_of_error {c : Context} {a : Action} {cause : ActionError}
    (h : a.visit c = .error cause) : ¬ IsExecution ⟨c, a⟩ := by
  rintro ⟨hrun, effect, hx⟩
  change a.mayRun c = .ok true at hrun
  change a.execute c = .ok effect at hx
  rw [Action.visit, hrun] at h
  change a.execute c = .error cause at h
  cases hx.symm.trans h

theorem not_isExecution_of_skip {c : Context} {a : Action} (h : a.mayRun c = .ok false) :
    ¬ IsExecution ⟨c, a⟩ := by
  rintro ⟨hrun, -⟩
  cases h.symm.trans hrun

/-- A visit puts what it emits behind the queue, and does nothing else to it. -/
theorem pending_of_visit {c c' : Context} {a : Action} {next : Option (List Action)}
    (h : a.visit c = .ok (c', next)) :
    c'.pending = c.pending ++ [⟨c, a⟩].filterMap emission? := by
  rcases Action.visit_cases h with ⟨hskip, rfl, -⟩ | ⟨hrun, hx⟩
  · rw [List.filterMap_cons_none (emission?_eq_none (not_isExecution_of_skip hskip))]
    exact (List.append_nil _).symm
  · cases hx with
    | @shutdown cond reason r hvalue =>
      have he : emission? ⟨c, .shutdown cond reason⟩ = some (.shutdown r false) :=
        emission?_eq_some_iff.mpr ⟨hrun, r, hvalue, rfl⟩
      rw [List.filterMap_cons_some he, ← c.pending_noteRequired]
      rfl
    | @emit cond event =>
      have he : emission? ⟨c, .emit cond event⟩ = some event :=
        emission?_eq_some_iff.mpr ⟨hrun, rfl⟩
      rw [List.filterMap_cons_some he]
      rfl
    | popConfigurations hpop =>
      obtain ⟨s, rest, -, rfl⟩ := Context.exists_saved_of_pop hpop
      exact (List.append_nil _).symm
    | _ => exact (List.append_nil _).symm

end Visit

/-! ## The queue -/

/-- **From `c` the evaluation emits**: behind the old queue it leaves the events of its visits. -/
def Evaluation.Emits (c : Context) (e : Evaluation) : Prop :=
  e.context.pending = c.pending ++ e.visits.filterMap Visit.emission?

namespace Evaluation.Emits
variable {c : Context} {a : Action} {e : Evaluation}

theorem nil (c : Context) : Emits c ⟨[], c, none⟩ := (List.append_nil _).symm

theorem error {cause : ActionError} (h : a.visit c = .error cause) :
    Emits c ⟨[⟨c, a⟩], c, some ⟨a, cause⟩⟩ := by
  have hnone := Visit.emission?_eq_none (Visit.not_isExecution_of_error h)
  rw [Emits, List.filterMap_cons_none hnone]
  exact (List.append_nil _).symm

theorem done {c' : Context} (h : a.visit c = .ok (c', none)) : Emits c ⟨[⟨c, a⟩], c', none⟩ :=
  Visit.pending_of_visit h

theorem behind {c' : Context} {next : List Action} (h : a.visit c = .ok (c', some next))
    (he : Emits c' e) : Emits c (e.behind ⟨c, a⟩) := by
  show e.context.pending = c.pending ++ ([(⟨c, a⟩ : Visit)] ++ e.visits).filterMap Visit.emission?
  rw [List.filterMap_append, ← List.append_assoc, ← Visit.pending_of_visit h]
  exact he

theorem andThen {next : Context → Evaluation} (he : Emits c e) (hnext : ∀ d, Emits d (next d)) :
    Emits c (e.andThen next) := by
  unfold Evaluation.andThen
  cases e.failure with
  | some f => exact he
  | none =>
    show (next e.context).context.pending = _
    rw [hnext e.context, he, List.filterMap_append, List.append_assoc]

end Evaluation.Emits

theorem emits_evaluate (c : Context) (a : Action) : (evaluate c a).Emits c :=
  (evaluation_induction (P := fun c _ e => Evaluation.Emits c e)
    .nil .error .done .behind .andThen).1 c a

/-- A visit with all that it yields puts what is emitted behind the queue. -/
theorem Context.emits_visitDepthFirst (c : Context) (a : Action) :
    (c.visitDepthFirst a).1.pending =
      c.pending ++ (c.trail [a]).filterMap Visit.emission? := by
  obtain ⟨configurations, saved, hcontext⟩ := c.fst_visitDepthFirst a
  rw [hcontext, c.trail_eq]
  exact emits_evaluate c a

/-- The actions visited are those of the tree and the marks of its scopes. -/
theorem action_evaluate (c : Context) (a : Action) :
    ∀ v ∈ (evaluate c a).visits, Action.Within v.action a ∨ v.action.IsMark := by
  refine evaluate_induction_within (P := fun b => Action.Within b a ∨ b.IsMark)
    (Q := fun _ e => ∀ v ∈ e.visits, Action.Within v.action a ∨ v.action.IsMark)
    (fun _ h => Or.inr h) ?_ ?_ ?_ ?_ ?_ (fun _ h => Or.inl h) c
  · exact fun _ _ hv => absurd hv List.not_mem_nil
  · intro c b cause hb _
    exact List.forall_mem_singleton.mpr hb
  · intro c b c' hb _
    exact List.forall_mem_singleton.mpr hb
  · intro c b next e hb _ he
    exact List.forall_mem_cons.mpr ⟨hb, he⟩
  · intro c e next he hnext
    unfold Evaluation.andThen
    cases e.failure with
    | some f => exact he
    | none => exact List.forall_mem_append.mpr ⟨he, hnext e.context⟩

/-! ## Other handlers in their place -/

/-- The handlers in the list `hs` stand for those in the list `hs'`, one for one: they have the
same identities.  They may react to other events and hold other actions. -/
def StandFor (hs hs' : List Handler) : Prop := hs.map (·.id) = hs'.map (·.id)

namespace StandFor
variable {hs hs' : List Handler}

theorem append (h : StandFor hs hs') (l : List Handler) : StandFor (hs ++ l) (hs' ++ l) := by
  rw [StandFor, List.map_append, List.map_append, show hs.map (·.id) = hs'.map (·.id) from h]

theorem filter (h : StandFor hs hs') (p : String → Bool) :
    StandFor (hs.filter fun x => p x.id) (hs'.filter fun x => p x.id) := by
  have hmap : ∀ l : List Handler, (l.filter fun x => p x.id).map (·.id) =
      (l.map (·.id)).filter p := fun l => List.filter_map.symm
  rw [StandFor, hmap, hmap, show hs.map (·.id) = hs'.map (·.id) from h]

theorem any (h : StandFor hs hs') (p : String → Bool) :
    (hs.any fun x => p x.id) = hs'.any fun x => p x.id := by
  have hmap : ∀ l : List Handler, (l.any fun x => p x.id) = (l.map (·.id)).any p :=
    fun l => List.any_map.symm
  rw [hmap, hmap, show hs.map (·.id) = hs'.map (·.id) from h]

end StandFor

/-- The same context with other handlers registered. -/
def Context.withHandlers (c : Context) (hs : List Handler) : Context := { c with handlers := hs }

theorem Context.noteRequired_withHandlers (c : Context) (hs : List Handler) :
    (c.withHandlers hs).noteRequired = c.noteRequired.withHandlers hs := by
  unfold noteRequired
  rw [show (c.withHandlers hs).current = c.current from rfl]
  split <;> rfl

theorem Context.firstFault?_withHandlers (c : Context) (hs : List Handler) (ts : List Template) :
    (c.withHandlers hs).firstFault? ts = c.firstFault? ts := by
  induction ts with
  | nil => rfl
  | cons t rest ih =>
    rw [Context.firstFault?, Context.firstFault?, ih]
    rfl

namespace Action
variable {c d : Context} {a : Action} {hs : List Handler} {next : Option (List Action)}

/-- An execution does the same with other handlers. -/
theorem Executes.withHandlers (hx : Executes c a d next) (h : StandFor hs c.handlers) :
    ∃ hs', StandFor hs' d.handlers ∧
      Executes (c.withHandlers hs) a (d.withHandlers hs') next := by
  cases hx with
  | setVariable hn hv => exact ⟨hs, h, .setVariable hn hv⟩
  | unsetVariable hn hpresent => exact ⟨hs, h, .unsetVariable hn hpresent⟩
  | unsetAbsent hn habsent => exact ⟨hs, h, .unsetAbsent hn habsent⟩
  | setConfiguration hn hv => exact ⟨hs, h, .setConfiguration hn hv⟩
  | declarePresent hn hpresent => exact ⟨hs, h, .declarePresent hn hpresent⟩
  | declareDefault hn habsent hv => exact ⟨hs, h, .declareDefault hn habsent hv⟩
  | resetConfigurations he =>
    rw [← values_congr (c := c) (d := c.withHandlers hs) rfl] at he
    exact ⟨hs, h, .resetConfigurations he⟩
  | log hm => exact ⟨hs, h, .log hm⟩
  | scopedGroup => exact ⟨hs, h, .scopedGroup⟩
  | plainGroup => exact ⟨hs, h, .plainGroup⟩
  | pushConfigurations => exact ⟨hs, h, .pushConfigurations⟩
  | popConfigurations hpop =>
    obtain ⟨s, rest, hsaved, rfl⟩ := Context.exists_saved_of_pop hpop
    exact ⟨hs, h, .popConfigurations
      (Context.popConfigurations?_of_saved (c := c.withHandlers hs) hsaved)⟩
  | @shutdown cond reason r hr =>
    refine ⟨hs, ?_, ?_⟩
    · show StandFor hs c.noteRequired.handlers
      rw [c.handlers_noteRequired]
      exact h
    · have hx : Executes (c.withHandlers hs) (.shutdown cond reason) _ none := .shutdown hr
      rw [c.noteRequired_withHandlers] at hx
      exact hx
  | emit => exact ⟨hs, h, .emit⟩
  | register => exact ⟨_, h.append _, .register⟩
  | @unregister _ handler hregistered =>
    refine ⟨_, h.filter (· != handler.id), .unregister ?_⟩
    rw [← hregistered]
    exact h.any (· == handler.id)
  | @unregisterAbsent _ handler habsent =>
    refine ⟨hs, h, .unregisterAbsent ?_⟩
    rw [← habsent]
    exact h.any (· == handler.id)

/-- An execution fails for the same reasons with other handlers. -/
theorem fails_withHandlers_iff {cause : ActionError} (hs : List Handler) :
    a.Fails (c.withHandlers hs) cause ↔ a.Fails c cause := by
  rw [Fails, Fails, c.firstFault?_withHandlers]
  cases a <;> exact Iff.rfl

theorem visit_withHandlers (h : a.visit c = .ok (d, next)) (hids : StandFor hs c.handlers) :
    ∃ hs', StandFor hs' d.handlers ∧
      a.visit (c.withHandlers hs) = .ok (d.withHandlers hs', next) := by
  have hrun : a.mayRun (c.withHandlers hs) = a.mayRun c := rfl
  rw [visit, hrun]
  rcases visit_cases h with ⟨hskip, rfl, rfl⟩ | ⟨hgo, hx⟩
  · rw [hskip]
    exact ⟨hs, hids, rfl⟩
  · obtain ⟨hs', hids', hx'⟩ := hx.withHandlers hids
    rw [hgo]
    exact ⟨hs', hids', execute_of_executes hx'⟩

theorem visit_error_withHandlers {cause : ActionError} (h : a.visit c = .error cause)
    (hs : List Handler) : a.visit (c.withHandlers hs) = .error cause := by
  rw [visit_eq_error_iff] at h ⊢
  rw [fails_withHandlers_iff]
  exact h

end Action

namespace Evaluation

/-- **The evaluation `e'` mirrors `e`**, with other handlers: the same actions are visited, it
ends for the same reason, and in the same context but for the handlers. -/
structure Mirrors (e' e : Evaluation) : Prop where
  actions : e'.visits.map Visit.action = e.visits.map Visit.action
  failure : e'.failure = e.failure
  context : ∃ hs, StandFor hs e.context.handlers ∧ e'.context = e.context.withHandlers hs

/-- However handlers are replaced, the list is evaluated as in `e`. -/
def Mirrored (c : Context) (l : List Action) (e : Evaluation) : Prop :=
  ∀ hs, StandFor hs c.handlers → (evaluateEach (c.withHandlers hs) l).Mirrors e

namespace Mirrored
variable {c : Context} {a : Action} {l : List Action} {e : Evaluation}

theorem nil (c : Context) : Mirrored c [] ⟨[], c, none⟩ := by
  intro hs hids
  rw [evaluateEach_nil]
  exact ⟨rfl, rfl, hs, hids, rfl⟩

theorem error {cause : ActionError} (h : a.visit c = .error cause) :
    Mirrored c [a] ⟨[⟨c, a⟩], c, some ⟨a, cause⟩⟩ := by
  intro hs hids
  rw [evaluateEach_singleton, evaluate_of_error (Action.visit_error_withHandlers h hs)]
  exact ⟨rfl, rfl, hs, hids, rfl⟩

theorem done {d : Context} (h : a.visit c = .ok (d, none)) :
    Mirrored c [a] ⟨[⟨c, a⟩], d, none⟩ := by
  intro hs hids
  obtain ⟨hs', hids', h'⟩ := Action.visit_withHandlers h hids
  rw [evaluateEach_singleton, evaluate_of_done h']
  exact ⟨rfl, rfl, hs', hids', rfl⟩

theorem behind {d : Context} {next : List Action} (h : a.visit c = .ok (d, some next))
    (he : Mirrored d next e) : Mirrored c [a] (e.behind ⟨c, a⟩) := by
  intro hs hids
  obtain ⟨hs', hids', h'⟩ := Action.visit_withHandlers h hids
  obtain ⟨hactions, hfailure, hcontext⟩ := he hs' hids'
  rw [evaluateEach_singleton, evaluate_of_yield h']
  exact ⟨congrArg (a :: ·) hactions, hfailure, hcontext⟩

theorem andThen {next : Context → Evaluation} (he : Mirrored c [a] e)
    (hnext : ∀ d, Mirrored d l (next d)) : Mirrored c (a :: l) (e.andThen next) := by
  intro hs hids
  have hfirst := he hs hids
  rw [evaluateEach_singleton] at hfirst
  obtain ⟨hactions, hfailure, hs', hids', hcontext⟩ := hfirst
  rw [evaluateEach_cons, Evaluation.andThen, Evaluation.andThen, hfailure]
  cases e.failure with
  | some f => exact ⟨hactions, hfailure, hs', hids', hcontext⟩
  | none =>
    obtain ⟨hactions', hfailure', hcontext'⟩ := hnext e.context hs' hids'
    rw [hcontext]
    refine ⟨?_, hfailure', hcontext'⟩
    simp only [List.map_append, hactions, hactions']

end Mirrored
end Evaluation

theorem mirrors_evaluate {c : Context} {hs : List Handler} (hids : StandFor hs c.handlers)
    (a : Action) : (evaluate (c.withHandlers hs) a).Mirrors (evaluate c a) := by
  have hmirrored : Evaluation.Mirrored c [a] (evaluate c a) :=
    (evaluation_induction .nil .error .done .behind .andThen).1 c a
  have h := hmirrored hs hids
  rwa [evaluateEach_singleton] at h

/-! ## A visit with all that it yields -/

/-- **A visit of `a` with all that it yields dispatches nothing**, whether it succeeds or fails.

* `queue`: behind the old queue stand the events emitted, in the order of the visits.
* `emitted`, `event`: these are one event for each emission and each shutdown that was executed,
  and it is the event of this action.
* `current`, `shutdownReason`: the event at hand and the reason of the shutdown stay.
* `own`: only actions of the tree, and marks of its scopes, are visited.
* `handlers`: with other handlers in the place of those registered the same actions are visited
  with the same answer, and the context at the end is the same but for the handlers. -/
structure DispatchesNothing (c : Context) (a : Action) : Prop where
  queue : (c.visitDepthFirst a).1.pending =
    c.pending ++ (c.trail [a]).filterMap Visit.emission?
  emitted : ∀ v ∈ c.trail [a], v.emission?.isSome = true ↔ v.IsExecution ∧ v.action.IsEmission
  event : ∀ v ∈ c.trail [a], ∀ e, v.emission? = some e → v.action.Emits v.context e
  current : (c.visitDepthFirst a).1.current = c.current
  shutdownReason : (c.visitDepthFirst a).1.shutdownReason = c.shutdownReason
  own : ∀ v ∈ c.trail [a], Action.Within v.action a ∨ v.action.IsMark
  handlers : ∀ hs, StandFor hs c.handlers →
    ((c.withHandlers hs).trail [a]).map Visit.action = (c.trail [a]).map Visit.action ∧
      ∃ hs', StandFor hs' (c.visitDepthFirst a).1.handlers ∧
        (c.withHandlers hs).visitDepthFirst a =
          ((c.visitDepthFirst a).1.withHandlers hs', (c.visitDepthFirst a).2)

/-- **Emitting never dispatches.** -/
theorem visit_dispatches_nothing (c : Context) (a : Action) : DispatchesNothing c a where
  queue := c.emits_visitDepthFirst a
  emitted := fun _ _ => Visit.isSome_emission?_iff
  event := fun _ _ _ he => (Visit.emission?_eq_some_iff.mp he).2
  current := (c.continues_visitDepthFirst a).current
  shutdownReason := (c.continues_visitDepthFirst a).shutdownReason
  own := by
    rw [c.trail_eq]
    exact action_evaluate c a
  handlers := by
    intro hs hids
    obtain ⟨hactions, hfailure, hs', hids', hcontext⟩ := mirrors_evaluate hids a
    rw [Context.trail_eq, Context.trail_eq, Context.visitDepthFirst_eq, Context.visitDepthFirst_eq,
      hfailure, hcontext]
    refine ⟨hactions, hs', ?_⟩
    cases (evaluate c a).failure with
    | none =>
      have hcount :
          (evaluate (c.withHandlers hs) a).visits.length = (evaluate c a).visits.length := by
        rw [← List.length_map Visit.action, hactions, List.length_map]
      rw [hcount]
      exact ⟨hids', rfl⟩
    | some f => exact ⟨hids', rfl⟩

/-- A request to shut down waits in the queue, also when an action behind it fails, and the handler
registered for it has not run. -/
example :
    let h : Handler :=
      ⟨"h", .shutdownEvent, none, [.setConfiguration none (.literal "ran") (.literal "1")]⟩
    let c := (Context.ofEnvironment .empty).register h
    let a : Action := .group none false [.shutdown none (.literal "stop"), .popConfigurations]
    (c.visitDepthFirst a).1.pending = [.shutdown "stop" false] ∧
      (c.visitDepthFirst a).1.configurations.entries = [] := by
  constructor
  · cbv
  · cbv

end LaunchPlan
