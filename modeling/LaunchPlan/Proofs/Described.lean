import LaunchPlan.Proofs.Bound
import LaunchPlan.Proofs.Emission
import LaunchPlan.Proofs.Grammar
import LaunchPlan.Proofs.Scope

/-! # Launching what a document describes

A document can describe groups, variables, arguments, messages and requests to shut down, but
no handler, no event of another kind and no bare mark of a scope.  A launch of such a
description is therefore simple, and this module says how it goes from beginning to end.

With no handler registered a drain takes notice of the events that wait and does nothing else
(`Service.QuietDrain`).  So before each action of the description the queue is empty, and behind
it there are exactly the requests that were made in its visit (`Evaluation.Queues`).  The first
request marks the shutdown, and no action of the description is visited after the one that
made it (`Service.PlainInclusion`, by induction along the inclusion).
-/
namespace LaunchPlan

/-! ## What a document can describe -/

namespace Action

/-- The action leaves handlers alone, and emits nothing but the requests to shut down of a
shutdown action. -/
def IsPlain : Action → Prop
  | emit .. | register .. | unregister .. => False
  | _ => True

/-- A document can describe the action. -/
def IsDescribed (a : Action) : Prop := a.IsPlain ∧ ¬ a.IsMark

theorem IsMark.isPlain {a : Action} (h : a.IsMark) : a.IsPlain := by
  rcases h with rfl | rfl <;> trivial

/-- The actions that are described one by one, all but the groups. -/
theorem throughout_isDescribed {a : Action} (ha : a.IsPlain) (hmark : ¬ a.IsMark)
    (hgroup : ∀ cond isScoped actions, a ≠ group cond isScoped actions) :
    a.Throughout IsDescribed := by
  refine throughout_of_leaf hgroup ?_ ⟨ha, hmark⟩
  rintro cond h rfl
  exact ha

end Action

namespace Entity

/-- All that an action can come to run, if it is read from an entity, is described. -/
theorem Denotes.throughout {e : Entity} {a : Action} (h : Denotes e a) :
    a.Throughout Action.IsDescribed := by
  refine Denotes.rec (motive_1 := fun _ a _ => a.Throughout Action.IsDescribed)
    (motive_2 := fun _ actions _ => ∀ a ∈ actions, a.Throughout Action.IsDescribed)
    ?setVariable ?unsetVariable ?setConfiguration ?declareArgument ?resetConfigurations ?log
    ?group ?shutdown ?nil ?cons h
  case group =>
    intro e c isScoped l actions _ _ _ _ _ ih
    exact Action.throughout_group.mpr ⟨⟨trivial, by simp [Action.IsMark]⟩, ih⟩
  case nil => simp
  case cons => exact fun _ _ ha hactions => List.forall_mem_cons.mpr ⟨ha, hactions⟩
  all_goals
    intros
    exact Action.throughout_isDescribed trivial (by simp [Action.IsMark]) (by simp)

theorem throughout_of_toDescription {e : Entity} {d : Description}
    (h : e.toDescription .builtin = .ok d) :
    ∀ a ∈ d.actions, a.Throughout Action.IsDescribed := by
  obtain ⟨-, children, -, hactions⟩ := toDescription_eq_ok_iff.mp h
  generalize d.actions = actions at hactions
  induction hactions with
  | nil => simp
  | cons ha _ ih => exact List.forall_mem_cons.mpr ⟨ha.throughout, ih⟩

end Entity

/-! ## Visits -/

namespace Visit

/-- The events that some visits emit if they emit nothing but the requests of shutdowns. -/
def emissions (vs : List Visit) : List Event :=
  (vs.filterMap request?).map (Event.shutdown · false)

/-- The reasons of the shutdowns executed in a visit and all that it yields, in order. -/
def requested (v : Visit) : List String := (v.context.trail [v.action]).filterMap request?

/-- Plain actions emit nothing else. -/
theorem filterMap_emission? {vs : List Visit} (h : ∀ v ∈ vs, v.action.IsPlain) :
    vs.filterMap emission? = emissions vs := by
  rw [emissions, List.map_filterMap]
  refine List.filterMap_congr fun v hv => ?_
  have hplain := h v hv
  unfold emission?
  split
  · rename_i ha _
    rw [ha] at hplain
    exact absurd hplain id
  · rfl

end Visit

/-- A plain action leaves the handlers as they are. -/
theorem Action.IsPlain.handlers_of_visit {c c' : Context} {a : Action}
    {next : Option (List Action)} (ha : a.IsPlain) (h : a.visit c = .ok (c', next)) :
    c'.handlers = c.handlers := by
  rcases visit_cases h with ⟨-, rfl, -⟩ | ⟨-, hx⟩
  · rfl
  · cases hx with
    | emit | register | unregister | unregisterAbsent => exact absurd ha id
    | shutdown => exact c.handlers_noteRequired
    | popConfigurations hpop =>
      obtain ⟨s, rest, -, rfl⟩ := Context.exists_saved_of_pop hpop
      rfl
    | _ => rfl

/-- **An evaluation of plain actions** puts their requests into the queue. -/
def Evaluation.Queues (c : Context) (e : Evaluation) : Prop :=
  e.context.pending = c.pending ++ Visit.emissions e.visits

section Described
variable {a : Action} (ha : a.Throughout Action.IsDescribed) (c : Context)
include ha

theorem handlers_evaluate : (evaluate c a).context.handlers = c.handlers ∧
    ∀ v ∈ (evaluate c a).visits, v.context.handlers = c.handlers :=
  evaluate_keeps (fun _ h => h.isPlain) (fun hb h => hb.handlers_of_visit h)
    (fun b hb => (ha b hb.reaches).1) c

theorem queues_evaluate : Evaluation.Queues c (evaluate c a) := by
  have hplain : ∀ v ∈ (evaluate c a).visits, v.action.IsPlain := by
    intro v hv
    rcases action_evaluate c a v hv with hwithin | hmark
    · exact (ha _ hwithin.reaches).1
    · exact hmark.isPlain
  rw [Evaluation.Queues, ← Visit.filterMap_emission? hplain]
  exact emits_evaluate c a

theorem Context.handlers_of_mem_trail {v : Visit} (hv : v ∈ c.trail [a]) :
    v.context.handlers = c.handlers := by
  rw [c.trail_eq] at hv
  exact (handlers_evaluate ha c).2 v hv

theorem Context.handlers_visitDepthFirst : (c.visitDepthFirst a).1.handlers = c.handlers := by
  obtain ⟨configurations, saved, hcontext⟩ := c.fst_visitDepthFirst a
  rw [hcontext]
  exact (handlers_evaluate ha c).1

theorem Context.pending_visitDepthFirst : (c.visitDepthFirst a).1.pending =
    c.pending ++ (Visit.requested ⟨c, a⟩).map (Event.shutdown · false) := by
  obtain ⟨configurations, saved, hcontext⟩ := c.fst_visitDepthFirst a
  rw [hcontext, Visit.requested, c.trail_eq]
  exact queues_evaluate ha c

end Described

/-! ## Drains without handlers -/

namespace Service

/-- Without handlers an event is taken notice of, and nothing else is done with it. -/
theorem dispatch_of_handlers_eq_nil {s : Service} (hs : s.context.handlers = []) (e : Event) :
    (s.dispatch e).2 = .ok () ∧ (s.dispatch e).1.context.handlers = [] ∧
      (s.dispatch e).1.context.pending = s.context.pending ∧ s.runsOf e = [] := by
  have hfor : (s.acknowledge e).1.context.handlersFor e = [] := by
    rw [handlersFor_acknowledge, Context.handlersFor, hs, List.filter_nil]
  rcases s.acknowledge_cases e with ⟨_, _, -, -, h⟩ | ⟨_, _, -, -, h⟩ | ⟨-, h⟩
  · simp only [dispatch, runsOf, h]
    exact ⟨trivial, hs, rfl, trivial⟩
  · rw [h] at hfor
    simp only [dispatch, runsOf, h, hfor]
    exact ⟨trivial, hs, rfl, rfl⟩
  · rw [h] at hfor
    simp only [dispatch, runsOf, h, hfor]
    exact ⟨trivial, hs, rfl, rfl⟩

/-- **A drain without handlers**, within a budget: nothing is visited, the answer tells whether
the events that waited are too many, and if not then the first request among them has marked the
shutdown. -/
structure QuietDrain (b : Nat) (s : Service) (ms : List Moment) (t : Service)
    (r : Except ServiceError Unit) : Prop where
  visits : ∀ m ∈ ms, m.visits = []
  handlers : t.context.handlers = []
  answer : r = if s.context.pending.length ≤ b then .ok ()
    else .error (.dispatchLimit s.maxDispatches)
  reason : r = .ok () →
    t.reason = s.reason.or (s.context.pending.filterMap Event.request?).head?

theorem Drains.quietDrain {b : Nat} {s t : Service} {ms : List Moment}
    {r : Except ServiceError Unit} (h : Drains b s ms t r) (hs : s.context.handlers = []) :
    QuietDrain b s ms t r := by
  induction h with
  | empty hp =>
    refine ⟨fun _ hm => absurd hm List.not_mem_nil, hs, by simp [hp], fun _ => ?_⟩
    rw [hp, List.filterMap_nil, List.head?_nil, Option.or_none]
  | overrun hp =>
    refine ⟨List.forall_mem_singleton.mpr rfl, hs, ?_, nofun⟩
    rw [hp, if_neg (by simp)]
  | @failed b s e _ _ _ herr =>
    obtain ⟨hok, -⟩ := dispatch_of_handlers_eq_nil (s := s.afterTake) hs e
    rw [hok] at herr
    cases herr
  | @next b s e rest ms t r hp _ hd ih =>
    obtain ⟨-, hhandlers, hpending, hruns⟩ :=
      dispatch_of_handlers_eq_nil (s := s.afterTake) hs e
    rw [pending_afterTake hp] at hpending
    obtain ⟨hvisits, hend, hanswer, hreason⟩ := ih hhandlers
    refine ⟨List.forall_mem_cons.mpr ⟨?_, hvisits⟩, hend, ?_, ?_⟩
    · rw [Moment.visits, Moment.roots, hruns]
      rfl
    · rw [hanswer, hpending, hp, List.length_cons, maxDispatches_dispatch]
      simp only [Nat.add_le_add_iff_right]
      rfl
    · intro hr
      have hfirst : (s.afterTake.dispatch e).1.reason = s.reason.or e.request? :=
        (s.afterTake.reason_dispatch e).1
      rw [hreason hr, hfirst, hpending, hp, Option.or_assoc]
      cases hrequest : e.request? with
      | none => rw [List.filterMap_cons_none hrequest, Option.none_or]
      | some r => rw [List.filterMap_cons_some hrequest, List.head?_cons, Option.some_or]

end Service

/-! ## Inclusions -/

/-- The visit of an action of a description. -/
def Moment.entity? : Moment → Option Visit
  | entity s a => some ⟨s.context, a⟩
  | _ => none

/-- The visits of actions of a description, in order. -/
def entities (ms : List Moment) : List Visit := ms.filterMap Moment.entity?

namespace Service

theorem Drains.entities {b : Nat} {s t : Service} {ms : List Moment}
    {r : Except ServiceError Unit} (h : Drains b s ms t r) : LaunchPlan.entities ms = [] := by
  rw [LaunchPlan.entities, List.filterMap_eq_nil_iff]
  intro m hm
  cases m with
  | entity u a => exact absurd hm h.not_entity
  | dispatch | overrun => rfl

/-- A drain visits no action of the description, so those are the one before it and the ones
behind it. -/
theorem Drains.entities_cons {b : Nat} {t u : Service} {ms : List Moment}
    {r : Except ServiceError Unit} (h : Drains b u ms t r) (s : Service) (a : Action)
    (ns : List Moment) :
    LaunchPlan.entities (.entity s a :: (ms ++ ns)) =
      ⟨s.context, a⟩ :: LaunchPlan.entities ns := by
  have hfirst : (Moment.entity s a).entity? = some ⟨s.context, a⟩ := rfl
  have hdrain := h.entities
  rw [LaunchPlan.entities] at hdrain ⊢
  rw [List.filterMap_cons_some hfirst, List.filterMap_append, hdrain, List.nil_append]
  rfl

/-- The drain behind an action that is described, where no event waited before: it is hit by the
bound exactly if the visit made more requests than that. -/
theorem Drains.afterVisit {s t : Service} {a : Action} {ms : List Moment}
    {r : Except ServiceError Unit} (ha : a.Throughout Action.IsDescribed)
    (hs : s.context.handlers = []) (hp : s.context.pending = [])
    (h : Drains s.maxDispatches (s.afterVisit a) ms t r) :
    (∀ m ∈ ms, m.visits = []) ∧ t.context.handlers = [] ∧
      (r = if (Visit.requested ⟨s.context, a⟩).length ≤ s.maxDispatches then .ok ()
        else .error (.dispatchLimit s.maxDispatches)) ∧
      (r = .ok () → t.reason = s.reason.or (Visit.requested ⟨s.context, a⟩).head?) := by
  have hhandlers : (s.afterVisit a).context.handlers = [] := by
    rw [context_afterVisit, Context.handlers_visitDepthFirst ha, hs]
  have hpending : (s.afterVisit a).context.pending =
      (Visit.requested ⟨s.context, a⟩).map (Event.shutdown · false) := by
    rw [context_afterVisit, Context.pending_visitDepthFirst ha, hp, List.nil_append]
  have hrequests : ∀ reasons : List String,
      (reasons.map (Event.shutdown · false)).filterMap Event.request? = reasons := by
    intro reasons
    rw [List.filterMap_map]
    exact List.filterMap_some
  obtain ⟨hvisits, hend, hanswer, hreason⟩ := h.quietDrain hhandlers
  rw [hpending, List.length_map, maxDispatches_afterVisit] at hanswer
  rw [hpending, hrequests, reason_afterVisit] at hreason
  exact ⟨hvisits, hend, hanswer, hreason⟩

/-- **A described inclusion that succeeded** has visited the actions in order and each
completely, and left none out unless the launch shuts down.  Of those that were visited only the
last has made requests, of which the first gave the reason. -/
structure Accomplished (s : Service) (l : List Action) (ms : List Moment) (t : Service) :
    Prop where
  pending : t.context.pending = []
  reason : t.reason = s.reason.or ((entities ms).flatMap Visit.requested).head?
  completes : ∀ v ∈ entities ms, v.Completes
  visited : ∃ left, l = (entities ms).map Visit.action ++ left ∧ (left ≠ [] → t.reason ≠ none)
  last : ∀ before v after, entities ms = before ++ v :: after → v.requested ≠ [] → after = []

/-- **An inclusion of described actions**, where no handler is registered and no event waits:
no handler ever is, only the actions of the description visit anything, it fails exactly if one
of them does, and the bound is hit exactly if one of them makes more requests than that. -/
structure PlainInclusion (s : Service) (l : List Action) (ms : List Moment) (t : Service)
    (r : Except ServiceError Unit) : Prop where
  handlers : t.context.handlers = []
  found : ∀ m ∈ ms, ∀ v ∈ m.visits, v.context.handlers = []
  visits : ms.flatMap Moment.visits = (entities ms).flatMap fun v => v.context.trail [v.action]
  failed_iff : ∀ f, r = .error (.action f) ↔ ∃ v ∈ entities ms, v.FailsWith f
  limit_iff : ∀ limit, r = .error (.dispatchLimit limit) ↔ limit = s.maxDispatches ∧
    ∃ v ∈ entities ms, v.Completes ∧ s.maxDispatches < v.requested.length
  accomplished : r = .ok () → Accomplished s l ms t

theorem Includes.moments_eq_nil {s t : Service} {l : List Action} {ms : List Moment}
    {r : Except ServiceError Unit} (h : Includes s l ms t r) (hs : s.reason ≠ none) :
    ms = [] := by
  cases h with
  | done | leftOut => rfl
  | failed hnot | stuck hnot | next hnot => exact absurd (not_isShutdown_iff.mp hnot) hs

namespace PlainInclusion
variable {s t u : Service} {a : Action} {rest : List Action} {ms ns : List Moment}
  {r : Except ServiceError Unit}

/-- An inclusion that visits nothing, because nothing is left or the launch shuts down. -/
theorem idle {l : List Action} (hs : t.context.handlers = []) (hp : t.context.pending = [])
    (hreason : t.reason = s.reason) (hleft : l ≠ [] → t.reason ≠ none) :
    PlainInclusion s l [] t (.ok ()) := by
  have hnone : ∀ v : Visit, v ∉ LaunchPlan.entities [] := fun _ => List.not_mem_nil
  refine ⟨hs, fun _ hm => absurd hm List.not_mem_nil, rfl, fun f => ?_, fun limit => ?_,
    fun _ => ⟨hp, ?_, fun v hv => absurd hv (hnone v), ⟨l, rfl, hleft⟩, ?_⟩⟩
  · constructor
    · intro h
      cases h
    · rintro ⟨v, hv, -⟩
      exact absurd hv (hnone v)
  · constructor
    · intro h
      cases h
    · rintro ⟨-, v, hv, -⟩
      exact absurd hv (hnone v)
  · rw [hreason]
    exact Option.or_none.symm
  · intro before v after hsplit
    have hv := hnone v
    rw [hsplit] at hv
    exact absurd (List.mem_append_right _ List.mem_cons_self) hv

section Visited
variable (ha : a.Throughout Action.IsDescribed) (hs : s.context.handlers = [])
include ha hs

theorem handlers_of_mem_entity {v : Visit} (hv : v ∈ (Moment.entity s a).visits) :
    v.context.handlers = [] := by
  rw [Moment.visits_entity] at hv
  rw [s.context.handlers_of_mem_trail ha hv, hs]

theorem failed {f : Failure} (hf : (s.context.visitDepthFirst a).2 = .error f) :
    PlainInclusion s (a :: rest) [.entity s a] (s.afterVisit a) (.error (.action f)) := by
  refine ⟨?_, ?_, ?_, fun g => ?_, fun limit => ?_, nofun⟩
  · rw [context_afterVisit, Context.handlers_visitDepthFirst ha, hs]
  · exact List.forall_mem_singleton.mpr fun v hv => handlers_of_mem_entity ha hs hv
  · rw [List.flatMap_singleton, Moment.visits_entity]
    exact (List.flatMap_singleton _ _).symm
  · constructor
    · intro h
      cases h
      exact ⟨_, List.mem_singleton_self _, hf⟩
    · rintro ⟨v, hv, hg⟩
      cases List.mem_singleton.mp hv
      cases hf.symm.trans hg
      rfl
  · constructor
    · intro h
      cases h
    · rintro ⟨-, v, hv, ⟨n, hn⟩, -⟩
      cases List.mem_singleton.mp hv
      cases hf.symm.trans hn

variable (hp : s.context.pending = []) {n : Nat}
  (hn : (s.context.visitDepthFirst a).2 = .ok n)
include hp hn

theorem stuck {err : ServiceError}
    (hd : Drains s.maxDispatches (s.afterVisit a) ms t (.error err)) :
    PlainInclusion s (a :: rest) (.entity s a :: ms) t (.error err) := by
  obtain ⟨hvisits, hhandlers, hanswer, -⟩ := hd.afterVisit ha hs hp
  have hentities := hd.entities_cons s a []
  rw [List.append_nil] at hentities
  -- the drain failed, so the visit made more requests than the bound allows
  split at hanswer
  · cases hanswer
  rename_i hmany
  cases hanswer
  refine ⟨hhandlers, ?_, ?_, fun f => ?_, fun limit => ?_, nofun⟩
  · refine List.forall_mem_cons.mpr ⟨fun v hv => handlers_of_mem_entity ha hs hv, ?_⟩
    intro m hm v hv
    rw [hvisits m hm] at hv
    exact absurd hv List.not_mem_nil
  · rw [hentities, List.flatMap_cons, List.flatMap_eq_nil_iff.mpr hvisits,
      Moment.visits_entity]
    rfl
  · rw [hentities]
    constructor
    · intro h
      cases h
    · rintro ⟨v, hv, hf⟩
      cases List.mem_singleton.mp hv
      cases hn.symm.trans hf
  · rw [hentities]
    constructor
    · intro h
      cases h
      exact ⟨rfl, _, List.mem_singleton_self _, ⟨n, hn⟩, Nat.lt_of_not_le hmany⟩
    · rintro ⟨rfl, -⟩
      rfl

theorem next (hd : Drains s.maxDispatches (s.afterVisit a) ms t (.ok ()))
    (hin : Includes t rest ns u r) (h : PlainInclusion t rest ns u r) :
    PlainInclusion s (a :: rest) (.entity s a :: (ms ++ ns)) u r := by
  obtain ⟨hvisits, -, hanswer, hreason⟩ := hd.afterVisit ha hs hp
  have hentities := hd.entities_cons s a ns
  have hmax : t.maxDispatches = s.maxDispatches :=
    hd.ends_taken.maxDispatches.trans (maxDispatches_afterVisit s a)
  have hfew : (Visit.requested ⟨s.context, a⟩).length ≤ s.maxDispatches := by
    split at hanswer
    · assumption
    · cases hanswer
  refine ⟨h.handlers, ?_, ?_, fun f => ?_, fun limit => ?_, fun hr => ?_⟩
  · refine List.forall_mem_cons.mpr ⟨fun v hv => handlers_of_mem_entity ha hs hv, ?_⟩
    refine List.forall_mem_append.mpr ⟨fun m hm v hv => ?_, h.found⟩
    rw [hvisits m hm] at hv
    exact absurd hv List.not_mem_nil
  · rw [hentities, List.flatMap_cons, List.flatMap_append, List.flatMap_eq_nil_iff.mpr hvisits,
      h.visits, Moment.visits_entity]
    rfl
  · rw [hentities, h.failed_iff]
    constructor
    · rintro ⟨v, hv, hf⟩
      exact ⟨v, List.mem_cons_of_mem _ hv, hf⟩
    · rintro ⟨v, hv, hf⟩
      rcases List.mem_cons.mp hv with rfl | hv
      · cases hn.symm.trans hf
      · exact ⟨v, hv, hf⟩
  · rw [hentities, h.limit_iff, hmax]
    refine and_congr_right fun _ => ?_
    constructor
    · rintro ⟨v, hv, hmany⟩
      exact ⟨v, List.mem_cons_of_mem _ hv, hmany⟩
    · rintro ⟨v, hv, hcompletes, hmany⟩
      rcases List.mem_cons.mp hv with rfl | hv
      · exact absurd hfew (Nat.not_le_of_lt hmany)
      · exact ⟨v, hv, hcompletes, hmany⟩
  · have hrest := h.accomplished hr
    have htreason := hreason rfl
    refine ⟨hrest.pending, ?_, ?_, ?_, ?_⟩
    · rw [hentities, hrest.reason, htreason, List.flatMap_cons, List.head?_append, Option.or_assoc]
    · rw [hentities]
      exact List.forall_mem_cons.mpr ⟨⟨n, hn⟩, hrest.completes⟩
    · obtain ⟨left, hleft, hshut⟩ := hrest.visited
      rw [hentities]
      exact ⟨left, congrArg (a :: ·) hleft, hshut⟩
    · intro before v after hsplit hv
      rw [hentities] at hsplit
      rcases List.cons_eq_append_iff.mp hsplit with ⟨-, hcons⟩ | ⟨before, -, hsplit⟩
      · -- the first action has made a request, so nothing is visited after it
        cases hcons
        have hshut : t.reason ≠ none := by
          rw [htreason, Ne, Option.or_eq_none_iff, List.head?_eq_none_iff]
          exact fun h => hv h.2
        rw [hin.moments_eq_nil hshut]
        rfl
      · exact hrest.last before v after hsplit hv

end Visited
end PlainInclusion

theorem Includes.plainInclusion {s t : Service} {l : List Action} {ms : List Moment}
    {r : Except ServiceError Unit} (h : Includes s l ms t r)
    (hl : ∀ a ∈ l, a.Throughout Action.IsDescribed) (hs : s.context.handlers = [])
    (hp : s.context.pending = []) : PlainInclusion s l ms t r := by
  induction h with
  | done => exact .idle hs hp rfl fun h => absurd rfl h
  | leftOut hshut => exact .idle hs hp rfl fun _ => isShutdown_iff.mp hshut
  | failed _ hf => exact .failed (hl _ List.mem_cons_self) hs hf
  | stuck _ hn hd => exact .stuck (hl _ List.mem_cons_self) hs hp hn hd
  | next _ hn hd hin ih =>
    have ha := hl _ List.mem_cons_self
    have hhandlers := (hd.afterVisit ha hs hp).2.1
    exact .next ha hs hp hn hd hin
      (ih (fun b hb => hl b (List.mem_cons_of_mem _ hb)) hhandlers (hd.pending_eq_nil rfl))

end Service

/-! ## Runs -/

/-- **A safe run** of a description.

* `handlers`, `saved`: no handler is registered at any visit or at the end, and no scope is open
  at the end, whatever the answer.
* `failed_iff`, `cause`: it fails for an action if and only if one that is visited fails, and
  this is for a text without a value or a missing argument.
* `limit_iff`: the bound is hit if and only if one action of the description makes more requests
  to shut down than that, all that it yields included.
* `succeeded`: if the run succeeds no event waits; the actions of the description were visited in
  order and each completely, none was left out unless the launch shuts down, and none was visited
  after one that made a request.
* `reason`: then the first request made in the run, if any, gave the reason of the outcome. -/
structure SafeRun (s : Service) (d : Description) : Prop where
  handlers : (s.run d).1.context.handlers = [] ∧
    ∀ m ∈ s.moments (.run d), ∀ v ∈ m.visits, v.context.handlers = []
  saved : (s.run d).1.context.saved = []
  failed_iff : ∀ f, (s.run d).2 = .error (.action f) ↔
    ∃ v ∈ entities (s.moments (.run d)), v.FailsWith f
  cause : ∀ f, (s.run d).2 = .error (.action f) →
    (∃ err, f.cause = .resolution err) ∨ ∃ name, f.cause = .missingArgument name
  limit_iff : ∀ limit, (s.run d).2 = .error (.dispatchLimit limit) ↔ limit = s.maxDispatches ∧
    ∃ v ∈ entities (s.moments (.run d)), v.Completes ∧ s.maxDispatches < v.requested.length
  succeeded : ∀ o, (s.run d).2 = .ok o →
    Service.Accomplished s d.actions (s.moments (.run d)) (s.run d).1
  reason : ∀ o, (s.run d).2 = .ok o → (s.run d).1.reason = o.shutdownReason ∧
    o.shutdownReason =
      (((s.moments (.run d)).flatMap Moment.visits).filterMap Visit.request?).head?

theorem safeRun {s : Service} {d : Description}
    (hd : ∀ a ∈ d.actions, a.Throughout Action.IsDescribed) (hhandlers : s.context.handlers = [])
    (hpending : s.context.pending = []) (hsaved : s.context.saved = []) (hs : s.reason = none) :
    SafeRun s d := by
  have hbalance : CallBalance s (.run d) := by
    refine callBalance (fun a ha b hb => (hd a ha b hb).2) ?_
    rw [Context.HandlersHave, hhandlers]
    exact fun _ hh => absurd hh List.not_mem_nil
  obtain ⟨t, r, hin, hrun⟩ := s.run_cases d
  have hplain := hin.plainInclusion hd hhandlers hpending
  -- the run reports the errors of the inclusion, and no others
  have herror : ∀ err, (s.run d).2 = .error err ↔ r = .error err := by
    intro err
    rcases hrun with ⟨_, rfl, hrun⟩ | ⟨x, -, rfl, hrun⟩ <;> rw [hrun]
    · rw [Except.error.injEq, Except.error.injEq]
    · constructor <;> intro h <;> cases h
  refine
    { handlers := ⟨?_, hplain.found⟩
      saved := hbalance.saved.trans hsaved
      failed_iff := fun f => (herror _).trans (hplain.failed_iff f)
      cause := ?_
      limit_iff := fun limit => (herror _).trans (hplain.limit_iff limit)
      succeeded := ?_
      reason := ?_ }
  · rcases hrun with ⟨err, -, hrun⟩ | ⟨x, -, -, hrun⟩ <;> rw [hrun] <;> exact hplain.handlers
  · intro f hf
    have hne := hbalance.cause_ne f (Service.errorOf_eq_some_iff.mpr hf)
    cases hcause : f.cause with
    | resolution err => exact Or.inl ⟨err, rfl⟩
    | missingArgument name => exact Or.inr ⟨name, rfl⟩
    | unbalancedScope => exact absurd hcause hne
  · intro o ho
    rcases hrun with ⟨err, -, hrun⟩ | ⟨x, -, hr, hrun⟩ <;> rw [hrun] at ho ⊢
    · cases ho
    · have h := hplain.accomplished hr
      exact ⟨h.pending, h.reason, h.completes, h.visited, h.last⟩
  · intro o ho
    rcases hrun with ⟨err, -, hrun⟩ | ⟨x, -, hr, hrun⟩ <;> rw [hrun] at ho ⊢
    · cases ho
    · cases ho
      have hreason : t.reason = s.reason.or
          ((entities (s.moments (.run d))).flatMap Visit.requested).head? :=
        (hplain.accomplished hr).reason
      rw [hs, Option.none_or] at hreason
      refine ⟨rfl, ?_⟩
      rw [hplain.visits, List.filterMap_flatMap]
      exact hreason

/-- **Running what a document describes is safe**, on a service that was set up, with any launch
arguments, environment and bound. -/
theorem described_run_safe {e : Entity} {d : Description} (h : e.toDescription .builtin = .ok d)
    (config : ServiceConfig) (environment : OrderedMap String) :
    SafeRun (.ofConfig config environment) d := by
  have hcontext := Service.context_ofConfig config environment
  refine safeRun (Entity.throughout_of_toDescription h) ?_ ?_ ?_ ?_
  · rw [hcontext, Context.ofEnvironment]
  · rw [hcontext, Context.ofEnvironment]
  · rw [hcontext, Context.ofEnvironment]
  · exact Service.reason_ofConfig config environment

/-- A document that asks twice for a shutdown, in a scope, before a message. -/
def stoppingDocument : Entity where
  tag := "launch"
  children := .ok
    [⟨"group", .ok [stop "first", stop "second"], fun _ => .ok none⟩,
      ⟨"log", .ok [], fun name =>
        .ok (if name = "message" then some (.text "late") else none)⟩]
  attr? _ := .ok none
where
  /-- A request for this reason. -/
  stop (reason : String) : Entity :=
    ⟨"shutdown", .ok [], fun name => .ok (if name = "reason" then some (.text reason) else none)⟩

/-- The description that the document stands for. -/
def stoppingDescription : Description where
  actions :=
    [.group none true [.shutdown none (Template.literal "first"),
        .shutdown none (Template.literal "second")],
      .log none (Template.literal "late")]

theorem toDescription_stoppingDocument :
    stoppingDocument.toDescription .builtin = .ok stoppingDescription := by
  have hstop : ∀ reason, Template.parse reason = .ok (Template.literal reason) →
      Entity.Denotes (stoppingDocument.stop reason) (.shutdown none (Template.literal reason)) := by
    intro reason h
    have hreason : (stoppingDocument.stop reason).GivesIfAny "reason"
        (some (Template.literal reason)) := ⟨reason, rfl, h⟩
    have hcondition : (stoppingDocument.stop reason).GivesCondition none := .always rfl rfl
    exact .shutdown rfl hcondition hreason
  have hgroup := Entity.Denotes.group (e := ⟨"group", .ok
      [stoppingDocument.stop "first", stoppingDocument.stop "second"], fun _ => .ok none⟩)
    rfl (.always rfl rfl) (.inl ⟨rfl, rfl⟩) rfl
    (.cons (hstop "first" (by cbv)) (.cons (hstop "second" (by cbv)) .nil))
  exact Entity.toDescription_eq_ok_iff.mpr ⟨rfl, _, rfl,
    .cons hgroup (.cons (.log rfl (.always rfl rfl) ⟨"late", rfl, by cbv⟩) .nil)⟩

/-- The set-up with this bound and nothing else. -/
def boundOnly (m : Nat) : ServiceConfig := ⟨.empty, false, m⟩

/-- With a bound of two the first reason counts and the message is not visited any more; with a
bound of one the group makes too many requests. -/
theorem described_run_safe_stopping :
    ((Service.ofConfig (boundOnly 2) .empty).run stoppingDescription).2.map
        Outcome.shutdownReason = .ok (some "first") ∧
      SafeRun (.ofConfig (boundOnly 2) .empty) stoppingDescription ∧
      (entities ((Service.ofConfig (boundOnly 2) .empty).moments
        (.run stoppingDescription))).length = 1 ∧
      ((Service.ofConfig (boundOnly 1) .empty).run stoppingDescription).2 =
        .error (.dispatchLimit 1) ∧
      SafeRun (.ofConfig (boundOnly 1) .empty) stoppingDescription := by
  have hsafe := described_run_safe toDescription_stoppingDocument
  exact ⟨by cbv, hsafe _ _, by cbv, by cbv, hsafe _ _⟩

end LaunchPlan
