import Mathlib
import LaunchPlan.Proofs.History

/-! # A launch shuts down once

Requests to shut down come from actions of descriptions, from handlers of any event, those of a
shutdown included, and from outside.  The first that is dispatched gives the reason, and it is
the only one that handlers see.

`Life` is any sequence of service calls, with any operations on the context between them.  The
calls may fail: a failure can fall between the mark of the shutdown and the end of its handlers.
The invariant that carries all laws is one equation (`Linked.reason_eq`): the reason at the end
is that at the beginning or else that of the first request among the moments in between.  A
moment changes it in one way only (`Moment.reason_after`), and operations on the context not at
all (`Context.Edits.reason_eq`).  `shutdown_final` collects the laws.
-/
namespace LaunchPlan

/-! ## Requests -/

/-- The reason that an event gives for a shutdown, if it requests one. -/
def Event.request? : Event → Option String
  | .shutdown reason _ => some reason
  | _ => none

namespace Moment

/-- The reason of the request to shut down that is dispatched. -/
def request? : Moment → Option String
  | dispatch _ e => e.request?
  | _ => none

/-- Handlers run for a request to shut down. -/
def HandlesRequest (m : Moment) : Prop := m.request? ≠ none ∧ m.runs ≠ []

end Moment

/-- The reasons of the requests dispatched, in order. -/
def requests (ms : List Moment) : List String := ms.filterMap Moment.request?

namespace Service

/-- The reason of the shutdown, once there is one. -/
def reason (s : Service) : Option String := s.context.shutdownReason

theorem isShutdown_iff {s : Service} : s.context.isShutdown = true ↔ s.reason ≠ none :=
  Option.isSome_iff_ne_none

theorem not_isShutdown_iff {s : Service} : s.context.isShutdown = false ↔ s.reason = none :=
  Option.isSome_eq_false_iff.trans Option.isNone_iff_eq_none

/-- Taking notice of an event is what marks the shutdown, unless it is marked already. -/
theorem reason_acknowledge (s : Service) (e : Event) :
    (s.acknowledge e).1.reason = s.reason.or e.request? := by
  rcases s.acknowledge_cases e with ⟨r, _, rfl, hs, h⟩ | ⟨r, _, rfl, hs, h⟩ | ⟨hne, h⟩
  · obtain ⟨r', hr'⟩ := Option.isSome_iff_exists.mp hs
    have hreason : s.reason = some r' := hr'
    rw [h, hreason]
    exact hreason
  · rw [h, not_isShutdown_iff.mp hs]
    rfl
  · have hnone : e.request? = none := by
      cases e with
      | shutdown r signal => exact absurd rfl (hne r signal)
      | processStarted | processExited => rfl
    rw [h, hnone, Option.or_none]

/-- While an event is handled the reason stays what it was when the event was taken notice
of. -/
theorem reason_dispatch (s : Service) (e : Event) :
    (s.dispatch e).1.reason = s.reason.or e.request? ∧
      ∀ v ∈ (s.runsOf e).flatMap (HandlerRun.roots e),
        v.context.shutdownReason = s.reason.or e.request? := by
  have hack := s.reason_acknowledge e
  rcases s.dispatch_cases e with ⟨r, _, rfl, hs, hd, hruns⟩ | ⟨u, c, f?, hu, hcarry, hd, -⟩
  · rw [hd, hruns]
    refine ⟨?_, fun v hv => absurd hv List.not_mem_nil⟩
    obtain ⟨r', hr'⟩ := Option.isSome_iff_exists.mp hs
    have hreason : s.reason = some r' := hr'
    rw [hreason]
    exact hreason
  · rw [hu] at hack
    -- no visit touches the reason, so all of them find the one that was marked
    obtain ⟨hvs, hc⟩ := hcarry.invariant
      (P := fun d => d.shutdownReason = s.reason.or e.request?) hack
      (fun a _ d hd => (d.continues_visitDepthFirst a).shutdownReason.trans hd) (fun _ _ hd => hd)
    refine ⟨?_, hvs⟩
    rcases hd with hd | hd
    · rw [reason, hd]
      exact hc
    · rw [reason, hd]
      exact hc

theorem reason_afterVisit (s : Service) (a : Action) : (s.afterVisit a).reason = s.reason := by
  rw [reason, context_afterVisit]
  exact (s.context.continues_visitDepthFirst a).shutdownReason

end Service

namespace Moment

/-- **What a moment does to the reason**: a request that is dispatched gives it, unless there
is one. -/
theorem reason_after (m : Moment) : m.after.reason = m.before.reason.or m.request? := by
  cases m with
  | entity s a =>
    show (s.afterVisit a).reason = s.reason.or none
    rw [Option.or_none, s.reason_afterVisit a]
  | dispatch s e => exact (s.afterTake.reason_dispatch e).1
  | overrun s e =>
    show s.afterTake.reason = s.reason.or none
    rw [Option.or_none]
    rfl

/-- All actions of a moment find the reason that it leaves. -/
theorem reason_of_mem_roots {m : Moment} {v : Visit} (hv : v ∈ m.roots) :
    v.context.shutdownReason = m.after.reason := by
  cases m with
  | entity s a =>
    rw [roots, List.mem_singleton] at hv
    rw [hv]
    exact (s.reason_afterVisit a).symm
  | dispatch s e =>
    obtain ⟨hafter, hroots⟩ := s.afterTake.reason_dispatch e
    exact (hroots v hv).trans hafter.symm
  | overrun => exact absurd hv List.not_mem_nil

/-- A request that is taken while the launch shuts down reaches no handler, and leaves a record
at most. -/
theorem dropped_of_reason {m : Moment} {reason : String} {signal : Bool}
    (hm : m.taken? = some (.shutdown reason signal)) (hreason : m.before.reason ≠ none) :
    m.runs = [] ∧ m.roots = [] ∧ (m.after = m.before.afterTake ∨
      m.after = m.before.afterTake.note (.shutdownIgnored reason)) := by
  cases m with
  | entity => cases hm
  | overrun u e => exact ⟨rfl, rfl, Or.inl rfl⟩
  | dispatch u e =>
    cases hm
    have hs : u.afterTake.context.isShutdown = true := Service.isShutdown_iff.mpr hreason
    rcases u.afterTake.dispatch_cases (.shutdown reason signal) with
      ⟨_, _, he, -, hd, hruns⟩ | ⟨t, -, -, hack, -⟩
    · cases he
      refine ⟨hruns, ?_, Or.inr (congrArg Prod.fst hd)⟩
      rw [roots, hruns]
      rfl
    · rw [Service.acknowledge, if_pos hs] at hack
      cases hack

/-- Handlers run for a request only if the launch does not shut down yet. -/
theorem HandlesRequest.reason_eq_none {m : Moment} (h : m.HandlesRequest) :
    m.before.reason = none := by
  obtain ⟨hrequest, hruns⟩ := h
  cases m with
  | entity | overrun => exact absurd rfl hrequest
  | dispatch u e =>
    cases e with
    | processStarted | processExited => exact absurd rfl hrequest
    | shutdown reason signal =>
      by_cases hu : u.reason = none
      · exact hu
      · exact absurd (dropped_of_reason (m := .dispatch u (.shutdown reason signal)) rfl hu).1 hruns

end Moment

/-! ## Moments in a row -/

namespace Linked
variable {s t u : Service} {ms ns : List Moment}

/-- Only the reason of the first service matters. -/
theorem of_eq (h : s.reason = t.reason) (h' : Linked Service.reason t ns u) :
    Linked Service.reason s ns u := by
  cases ns with
  | nil => exact h.trans h'
  | cons m ns => exact ⟨h'.1.trans h.symm, h'.2⟩

theorem append (h : Linked Service.reason s ms t) (h' : Linked Service.reason t ns u) :
    Linked Service.reason s (ms ++ ns) u := by
  induction ms generalizing s with
  | nil => exact of_eq h h'
  | cons m ms ih => exact ⟨h.1, ih h.2⟩

/-- The moments before and after one of them. -/
theorem split {before after : List Moment} {m : Moment}
    (h : Linked Service.reason s (before ++ m :: after) t) :
    Linked Service.reason s before m.before ∧ Linked Service.reason m.after after t := by
  induction before generalizing s with
  | nil => exact ⟨h.1.symm, h.2⟩
  | cons n before ih =>
    obtain ⟨hbefore, hafter⟩ := ih h.2
    exact ⟨⟨h.1, hbefore⟩, hafter⟩

/-- **The reason at the end** is that at the beginning, or else that of the first request
dispatched. -/
theorem reason_eq (h : Linked Service.reason s ms t) :
    t.reason = s.reason.or (requests ms).head? := by
  induction ms generalizing s with
  | nil =>
    have hst : s.reason = t.reason := h
    rw [← hst, requests, List.filterMap_nil, List.head?_nil, Option.or_none]
  | cons m ms ih =>
    obtain ⟨hm, hms⟩ := h
    rw [ih hms, m.reason_after, hm, Option.or_assoc, requests, requests]
    cases hr : m.request? with
    | none => rw [List.filterMap_cons_none hr, Option.none_or]
    | some r =>
      rw [List.filterMap_cons_some hr, List.head?_cons]
      rfl

theorem reason_eq_some {r : String} (h : Linked Service.reason s ms t)
    (hs : s.reason = some r) : t.reason = some r := by
  rw [h.reason_eq, hs]
  rfl

end Linked

theorem Path.linked_reason {s t : Service} {ms : List Moment} (h : Path s ms t) :
    Linked Service.reason s ms t := by
  induction h with
  | nil => rfl
  | @note s r _ _ _ _ ih =>
    have hreason : s.reason = (s.note r).reason := rfl
    exact .of_eq hreason ih
  | @emit s e _ _ _ ih =>
    have hreason : s.reason = Service.reason { s with context := s.context.emit e } := rfl
    exact .of_eq hreason ih
  | entity _ ih => exact ⟨rfl, ih⟩
  | dispatch _ _ ih => exact ⟨rfl, ih⟩
  | overrun _ _ ih => exact ⟨rfl, ih⟩

/-! ## Calls of a service that shuts down -/

namespace Service

/-- An action of a description is visited only while the launch does not shut down. -/
theorem Includes.reason_eq_none {s t u : Service} {l : List Action} {ms : List Moment} {a : Action}
    {r : Except ServiceError Unit} (h : Includes s l ms t r) (ha : Moment.entity u a ∈ ms) :
    u.reason = none := by
  induction h with
  | done | leftOut => exact absurd ha List.not_mem_nil
  | failed hs =>
    rw [List.mem_singleton] at ha
    cases ha
    exact not_isShutdown_iff.mp hs
  | stuck hs _ hd =>
    rcases List.mem_cons.mp ha with ha | ha
    · cases ha
      exact not_isShutdown_iff.mp hs
    · exact absurd ha hd.not_entity
  | next hs _ hd _ ih =>
    rcases List.mem_cons.mp ha with ha | ha
    · cases ha
      exact not_isShutdown_iff.mp hs
    rcases List.mem_append.mp ha with ha | ha
    · exact absurd ha hd.not_entity
    · exact ih ha

theorem reason_eq_none_of_entity {s u : Service} {k : Call} {a : Action}
    (ha : Moment.entity u a ∈ s.moments k) : u.reason = none := by
  rcases s.call_cases k with ⟨e, t, r, -, hd, -⟩ | ⟨s₁, t, r, -, hin, -⟩
  · exact absurd ha hd.not_entity
  · exact hin.reason_eq_none ha

/-- The services differ in their logs only. -/
def SameButLog (s t : Service) : Prop :=
  ∃ log, t = { s with context := { s.context with log := log } }

theorem sameButLog_visitUntilShutdown {s : Service} (hs : s.reason ≠ none) (l : List Action) :
    s.includeMoments l = [] ∧ (s.visitUntilShutdown l).2 = .ok () ∧
      s.SameButLog (s.visitUntilShutdown l).1 := by
  have hshut : s.context.isShutdown = true := isShutdown_iff.mpr hs
  cases l with
  | nil => exact ⟨rfl, rfl, s.context.log, rfl⟩
  | cons a rest =>
    rw [includeMoments, visitUntilShutdown, if_pos hshut, if_pos hshut]
    exact ⟨rfl, rfl, _, rfl⟩

/-- **A service that shuts down includes and runs nothing**: no moment comes to pass, and only
records are left. -/
theorem sameButLog_call {s : Service} (hs : s.reason ≠ none) {k : Call}
    (hk : ∀ e, k ≠ .deliver e) :
    s.moments k = [] ∧ (s.call k).2 = none ∧ s.SameButLog (s.call k).1 := by
  cases k with
  | deliver e => exact absurd rfl (hk e)
  | includeDescription d =>
    obtain ⟨hms, hok, hsame⟩ := sameButLog_visitUntilShutdown hs d.actions
    refine ⟨hms, ?_, hsame⟩
    show errorOf (s.visitUntilShutdown d.actions).2 = none
    rw [hok]
    rfl
  | run d =>
    have hnote : (s.note (.launching d.size)).reason ≠ none := hs
    obtain ⟨hms, hok, log, hlog⟩ := sameButLog_visitUntilShutdown hnote d.actions
    refine ⟨hms, ?_⟩
    have hrun : (s.note (.launching d.size)).includeDescription d =
        ({ s with context := { s.context with log := log } }, .ok ()) := Prod.ext hlog hok
    simp only [call, run, hrun]
    exact ⟨rfl, _, rfl⟩

end Service

/-! ## The life of a service -/

/-- **Operations on a context** between two calls, in any order.  One that is refused changes
nothing; it has no rule of its own. -/
inductive Context.Edits : Context → Context → Prop
  | refl (c) : Edits c c
  | setVariable {c d} (name value) : Edits (c.setVariable name value) d → Edits c d
  | unsetVariable {c d} (name) : Edits (c.unsetVariable name) d → Edits c d
  | setConfiguration {c d} (name value) : Edits (c.setConfiguration name value) d → Edits c d
  | resetConfigurations {c d} (keep) : Edits (c.resetConfigurations keep) d → Edits c d
  | push {c d} : Edits c.pushConfigurations d → Edits c d
  | pop {c c' d} : c.popConfigurations? = some c' → Edits c' d → Edits c d
  | emit {c d} (e) : Edits (c.emit e) d → Edits c d
  | take {c e c' d} : c.takePending? = some (e, c') → Edits c' d → Edits c d
  | register {c d} (h) : Edits (c.register h) d → Edits c d
  | unregister {c d} (h) : Edits (c.unregister h) d → Edits c d
  | visit {c c' d a next} : Action.visit c a = .ok (c', next) → Edits c' d → Edits c d
  /-- Operations while an event is at hand, which is forgotten afterwards. -/
  | handling {c c' d} (e) : Edits { c with current := some e } c' →
      Edits { c' with current := c.current } d → Edits c d

/-- Operations on the context leave the reason of the shutdown alone. -/
theorem Context.Edits.shutdownReason {c d : Context} (h : c.Edits d) :
    d.shutdownReason = c.shutdownReason := by
  induction h with
  | refl => rfl
  | pop hpop _ ih =>
    obtain ⟨s, rest, -, rfl⟩ := Context.exists_saved_of_pop hpop
    exact ih
  | take htake _ ih =>
    unfold Context.takePending? at htake
    split at htake <;> cases htake
    exact ih
  | visit hv _ ih => exact ih.trans (Action.continues_of_visit hv).shutdownReason
  | handling _ _ _ ihe ih => exact ih.trans ihe
  | setVariable _ _ _ ih | setConfiguration _ _ _ ih | unsetVariable _ _ ih
  | resetConfigurations _ _ ih | emit _ _ ih | register _ _ ih | unregister _ _ ih
  | push _ ih => exact ih

/-- **Any stretch of the life of a service**: calls, failing or not, and operations on the
context between them, with the moments of the calls. -/
inductive Life : Service → List Moment → Service → Prop
  | nil (s) : Life s [] s
  | call {s ms t} (k) : Life (s.call k).1 ms t → Life s (s.moments k ++ ms) t
  | edit {s c ms t} : s.context.Edits c → Life { s with context := c } ms t → Life s ms t

namespace Life
variable {s t : Service} {ms : List Moment}

theorem linked (h : Life s ms t) : Linked Service.reason s ms t := by
  induction h with
  | nil => rfl
  | @call s _ _ k _ ih => exact (s.path_call k).linked_reason.append ih
  | @edit s c ms t hedit _ ih =>
    have hreason : s.reason = Service.reason { s with context := c } := hedit.shutdownReason.symm
    exact .of_eq hreason ih

theorem reason_eq_none_of_entity {u : Service} {a : Action} (h : Life s ms t)
    (ha : Moment.entity u a ∈ ms) : u.reason = none := by
  induction h with
  | nil => exact absurd ha List.not_mem_nil
  | call k _ ih =>
    rcases List.mem_append.mp ha with ha | ha
    · exact Service.reason_eq_none_of_entity ha
    · exact ih ha
  | edit _ _ ih => exact ih ha

end Life

/-- Where there is no reason yet, there was no request. -/
theorem Linked.of_reason_eq_none {s t : Service} {ms : List Moment}
    (h : Linked Service.reason s ms t) (ht : t.reason = none) :
    s.reason = none ∧ requests ms = [] := by
  rw [h.reason_eq, Option.or_eq_none_iff] at ht
  exact ⟨ht.1, List.head?_eq_none_iff.mp ht.2⟩

/-- After a request that handlers run for, they run for none. -/
theorem Linked.pairwise {s t : Service} {ms : List Moment} (h : Linked Service.reason s ms t) :
    ms.Pairwise fun m n => ¬ (m.HandlesRequest ∧ n.HandlesRequest) := by
  induction ms generalizing s with
  | nil => exact List.Pairwise.nil
  | cons m ms ih =>
    refine List.Pairwise.cons ?_ (ih h.2)
    rintro n hn ⟨hm, hn'⟩
    -- up to the second request there was no reason, although the first had given one
    obtain ⟨before, after, rfl⟩ := List.append_of_mem hn
    obtain ⟨hnone, -⟩ := h.2.split.1.of_reason_eq_none hn'.reason_eq_none
    rw [m.reason_after, Option.or_eq_none_iff] at hnone
    exact hm.1 hnone.2

/-- **What a stretch of a life tells about the shutdown**, from `s` through `ms` to `t`.

* `reason`: the reason is that of the first request dispatched.
* `final`: once there is a reason it stays.
* `during`: both hold at every moment on the way, and for all actions visited.
* `handled`, `once`: handlers run for at most one request, and that is the first dispatched.
* `dropped`: a later request reaches no handler, and leaves a record at most.
* `entity`: no action of a description is visited after a request was dispatched.
* `closed`: if the launch shuts down, including or running a description does nothing more. -/
structure ShutdownOnce (s : Service) (ms : List Moment) (t : Service) : Prop where
  reason : t.reason = s.reason.or (requests ms).head?
  final : ∀ r, s.reason = some r → t.reason = some r
  during : ∀ before m after, ms = before ++ m :: after →
    m.before.reason = s.reason.or (requests before).head? ∧
      m.after.reason = m.before.reason.or m.request? ∧
      ∀ v ∈ m.roots, v.context.shutdownReason = m.after.reason
  handled : ∀ before m after, ms = before ++ m :: after → m.HandlesRequest →
    s.reason = none ∧ requests before = []
  once : ms.Pairwise fun m n => ¬ (m.HandlesRequest ∧ n.HandlesRequest)
  dropped : ∀ before m after reason signal, ms = before ++ m :: after →
    m.taken? = some (.shutdown reason signal) → s.reason ≠ none ∨ requests before ≠ [] →
    m.runs = [] ∧ m.roots = [] ∧ (m.after = m.before.afterTake ∨
      m.after = m.before.afterTake.note (.shutdownIgnored reason))
  entity : ∀ before u a after, ms = before ++ .entity u a :: after →
    s.reason = none ∧ requests before = []
  closed : t.reason ≠ none → ∀ k : Service.Call, (∀ e, k ≠ .deliver e) →
    t.moments k = [] ∧ (t.call k).2 = none ∧ t.SameButLog (t.call k).1

theorem Life.shutdownOnce {s t : Service} {ms : List Moment} (h : Life s ms t) :
    ShutdownOnce s ms t where
  reason := h.linked.reason_eq
  final := fun r hs => h.linked.reason_eq_some hs
  during := by
    rintro before m after rfl
    exact ⟨h.linked.split.1.reason_eq, m.reason_after, fun v hv => Moment.reason_of_mem_roots hv⟩
  handled := by
    rintro before m after rfl hm
    exact h.linked.split.1.of_reason_eq_none hm.reason_eq_none
  once := h.linked.pairwise
  dropped := by
    rintro before m after reason signal rfl hm hlate
    refine Moment.dropped_of_reason hm fun hnone => ?_
    obtain ⟨hs, hbefore⟩ := h.linked.split.1.of_reason_eq_none hnone
    rcases hlate with hlate | hlate
    · exact hlate hs
    · exact hlate hbefore
  entity := by
    rintro before u a after rfl
    have hu : u.reason = none :=
      h.reason_eq_none_of_entity (List.mem_append_right _ List.mem_cons_self)
    exact h.linked.split.1.of_reason_eq_none hu
  closed := fun ht k hk => Service.sameButLog_call ht hk

/-- A service that is set up does not shut down. -/
theorem Service.reason_ofConfig (config : ServiceConfig) (environment : OrderedMap String) :
    (ofConfig config environment).reason = none := by
  rw [reason, context_ofConfig]
  rfl

/-- **Shutdown happens at most once and is final**, in any stretch of the life of any service.
From the beginning of its life, the reason is that of the first request dispatched. -/
theorem shutdown_final {s t : Service} {ms : List Moment} (h : Life s ms t) :
    ShutdownOnce s ms t ∧ ∀ config environment, s = .ofConfig config environment →
      t.reason = (requests ms).head? := by
  refine ⟨h.shutdownOnce, ?_⟩
  rintro config environment rfl
  rw [h.shutdownOnce.reason, Service.reason_ofConfig, Option.none_or]

/-- A service at the beginning of its life. -/
def freshService : Service := .ofConfig (.ofArguments .empty) .empty

/-- A description that requests a shutdown, and another in the handler of the first. -/
def twoRequests : Description where
  actions :=
    [.register none ⟨"h", .shutdownEvent, none, [.shutdown none (.literal "second")]⟩,
      .shutdown none (.literal "first"), .log none (.literal "left out")]

/-- A run with two requests, and a third from outside afterwards: the first is the one that
counts. -/
theorem shutdown_final_twoRequests :
    let s := (freshService.call (.run twoRequests)).1
    Life freshService (freshService.moments (.run twoRequests) ++
        (s.moments (.deliver (.shutdown "third" true)) ++ []))
      (s.call (.deliver (.shutdown "third" true))).1 ∧
    (s.call (.deliver (.shutdown "third" true))).1.reason = some "first" := by
  intro s
  have life : Life freshService _ (s.call (.deliver (.shutdown "third" true))).1 :=
    .call (.run twoRequests) (.call (.deliver (.shutdown "third" true)) (.nil _))
  refine ⟨life, ?_⟩
  rw [(shutdown_final life).2 (.ofArguments .empty) .empty rfl]
  cbv

end LaunchPlan
