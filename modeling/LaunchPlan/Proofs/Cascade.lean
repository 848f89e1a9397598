import LaunchPlan.Proofs.Bound
import LaunchPlan.Proofs.Reach
import LaunchPlan.Proofs.Shutdown

/-! # Chains of shutdown requests end

A handler of a shutdown may request shutdown again, and register more handlers that do the same.
As long as no handler can come to emit anything but requests to shut down, such a chain ends by
itself, whatever waits in the queue at the beginning.

The reason is that a dispatch uses up one of the chances that handlers have to run
(`Service.chances`): one for each event in the queue that is no request, none of which is ever
emitted again, and one for the first request.  A request that comes later is dropped, and then
the queue is shorter than before.  So each dispatch goes down in the lexicographic order of the
chances and the length of the queue (`Service.descends`), although there is no bound on how many
requests one handler emits.
-/
namespace LaunchPlan

/-- The action emits no event but requests to shut down. -/
def Action.RequestsOnly (a : Action) : Prop :=
  ∀ cond e, a = .emit cond e → e.request? ≠ none

theorem Action.requestsOnly_of_ne {a : Action} (h : ∀ cond e, a ≠ .emit cond e) :
    a.RequestsOnly := fun cond e he => absurd he (h cond e)

theorem Action.requestsOnly_emit {cond : Option Condition} {e : Event} (h : e.request? ≠ none) :
    (emit cond e).RequestsOnly := by
  rintro _ _ ⟨⟩
  exact h

theorem Action.IsMark.requestsOnly {a : Action} (h : a.IsMark) : a.RequestsOnly := by
  rcases h with rfl | rfl <;> exact requestsOnly_of_ne fun _ _ h => nomatch h

/-! ## What is emitted -/

namespace Context

/-- From `c` to `d` nothing but requests was put into the queue. -/
def Requests (c d : Context) : Prop :=
  ∃ es, d.pending = c.pending ++ es ∧ ∀ e ∈ es, e.request? ≠ none

namespace Requests

theorem of_eq {c d : Context} (h : d.pending = c.pending) : c.Requests d :=
  ⟨[], by rw [h, List.append_nil], fun _ he => absurd he List.not_mem_nil⟩

theorem trans {c d e : Context} (h : c.Requests d) (h' : d.Requests e) : c.Requests e := by
  obtain ⟨es, hes, hall⟩ := h
  obtain ⟨es', hes', hall'⟩ := h'
  exact ⟨es ++ es', by rw [hes', hes, List.append_assoc], List.forall_mem_append.mpr ⟨hall, hall'⟩⟩

theorem emit (c : Context) {e : Event} (h : e.request? ≠ none) : c.Requests (c.emit e) := by
  refine ⟨[e], rfl, ?_⟩
  intro x hx
  rw [List.mem_singleton] at hx
  exact hx ▸ h

end Requests
end Context

theorem Action.Executes.requests {c c' : Context} {a : Action} {next : Option (List Action)}
    (hx : Executes c a c' next) (ha : a.RequestsOnly) : c.Requests c' := by
  cases hx with
  | emit => exact .emit c (ha _ _ rfl)
  | @shutdown _ _ r =>
    have hsome : (Event.shutdown r false).request? ≠ none := by simp [Event.request?]
    exact (Context.Requests.of_eq c.pending_noteRequired).trans (.emit _ hsome)
  | popConfigurations hpop =>
    obtain ⟨s, rest, -, rfl⟩ := Context.exists_saved_of_pop hpop
    exact .of_eq rfl
  | _ => exact .of_eq rfl

theorem Action.requests_of_visit {c c' : Context} {a : Action} {next : Option (List Action)}
    (h : a.visit c = .ok (c', next)) (ha : a.RequestsOnly) : c.Requests c' := by
  rcases visit_cases h with ⟨-, rfl, -⟩ | ⟨-, hx⟩
  · exact .of_eq rfl
  · exact hx.requests ha

/-- Actions emit only requests if that is so of all actions within them. -/
theorem requests_evaluate (c : Context) {a : Action}
    (ha : ∀ b, Action.Within b a → b.RequestsOnly) : c.Requests (evaluate c a).context := by
  refine evaluate_induction_within (P := Action.RequestsOnly)
    (Q := fun c e => c.Requests e.context) (fun _ h => h.requestsOnly) (fun _ => .of_eq rfl)
    (fun _ _ => .of_eq rfl) (fun ha hv => Action.requests_of_visit hv ha) (fun _ _ he => he)
    ?_ ha c
  intro c e next he hnext
  unfold Evaluation.andThen
  cases e.failure with
  | some f => exact he
  | none => exact he.trans (hnext e.context)

theorem Context.requests_visitDepthFirst (c : Context) {a : Action}
    (ha : a.Throughout Action.RequestsOnly) : c.Requests (c.visitDepthFirst a).1 := by
  have heval := requests_evaluate c fun b hb => ha b (Action.Within.reaches hb)
  obtain ⟨configurations, saved, hcontext⟩ := c.fst_visitDepthFirst a
  rw [hcontext]
  exact heval.trans (.of_eq rfl)

namespace Service

/-- A dispatch puts only requests into the queue, and leaves only handlers that do so too. -/
theorem requests_dispatch {s : Service} (hs : s.context.HandlersHave Action.RequestsOnly)
    (e : Event) : (s.dispatch e).1.context.HandlersHave Action.RequestsOnly ∧
      s.context.Requests (s.dispatch e).1.context := by
  rcases s.dispatch_cases e with ⟨_, _, -, -, hd, -⟩ | ⟨u, c, r, hack, hcarry, hd, -⟩
  · rw [hd]
    exact ⟨hs, .of_eq rfl⟩
  · have hsame := s.sameStore_acknowledge e
    have hpending : (s.acknowledge e).1.context.pending = s.context.pending := by
      rcases s.acknowledge_cases e with ⟨_, _, -, -, h⟩ | ⟨_, _, -, -, h⟩ | ⟨-, h⟩ <;> rw [h] <;> rfl
    rw [hack] at hsame hpending
    have hu : u.context.HandlersHave Action.RequestsOnly := by
      rw [Context.HandlersHave, hsame.handlers]
      exact hs
    have hall : ∀ a ∈ (s.context.handlersFor e).flatMap EventHandler.actions,
        a.Throughout Action.RequestsOnly := by
      intro a ha
      obtain ⟨h, hh, ha⟩ := List.mem_flatMap.mp ha
      exact hs h (List.mem_filter.mp hh).1 a ha
    have hc := (hcarry.invariant
      (P := fun d => d.HandlersHave Action.RequestsOnly ∧ s.context.Requests d)
      ⟨hu, .of_eq hpending⟩
      (fun a ha d hd => ⟨hd.1.visitDepthFirst (hall a ha),
        hd.2.trans (d.requests_visitDepthFirst (hall a ha))⟩)
      (fun d o hd => ⟨hd.1, hd.2.trans (.of_eq rfl)⟩)).2
    rcases hd with hd | hd <;> rw [hd]
    · exact hc
    · exact ⟨hc.1, hc.2.trans (.of_eq rfl)⟩

/-! ## Every dispatch goes down -/

/-- How often handlers can still come to run: for each event in the queue that is no request,
and for a first request. -/
def chances (s : Service) : Nat :=
  s.context.pending.countP (fun e => e.request?.isNone) + if s.context.isShutdown then 0 else 1

theorem countP_of_requests {c d : Context} (h : c.Requests d) :
    d.pending.countP (fun e => e.request?.isNone) =
      c.pending.countP (fun e => e.request?.isNone) := by
  obtain ⟨es, hes, hall⟩ := h
  have hnone : es.countP (fun e => e.request?.isNone) = 0 := by
    rw [List.countP_eq_zero]
    intro e he hrequest
    exact hall e he (Option.isNone_iff_eq_none.mp hrequest)
  rw [hes, List.countP_append, hnone, Nat.add_zero]

section Descends
variable {s : Service} {e : Event} {rest : List Event}

/-- Events that are no requests only leave the queue. -/
theorem countP_dispatch (hs : s.context.HandlersHave Action.RequestsOnly)
    (hp : s.context.pending = e :: rest) :
    (s.afterTake.dispatch e).1.context.pending.countP (fun e => e.request?.isNone) =
      rest.countP (fun e => e.request?.isNone) := by
  have htake : s.afterTake.context.HandlersHave Action.RequestsOnly := hs
  have hcount := countP_of_requests (requests_dispatch htake e).2
  rwa [pending_afterTake hp] at hcount

theorem countP_of_isRequest (hp : s.context.pending = e :: rest) (he : e.request? ≠ none) :
    s.context.pending.countP (fun e => e.request?.isNone) =
      rest.countP (fun e => e.request?.isNone) := by
  rw [hp, List.countP_cons_of_neg (by rwa [Option.isNone_iff_eq_none])]

/-- With an event that is no request a chance is gone, and the launch shuts down no more and no
less. -/
theorem chances_of_other (hs : s.context.HandlersHave Action.RequestsOnly)
    (hp : s.context.pending = e :: rest) (he : e.request? = none) :
    (s.afterTake.dispatch e).1.chances < s.chances := by
  have hreason : (s.afterTake.dispatch e).1.reason = s.reason.or e.request? :=
    (s.afterTake.reason_dispatch e).1
  have hshut : (s.afterTake.dispatch e).1.context.isShutdown = s.context.isShutdown := by
    rw [he, Option.or_none] at hreason
    exact congrArg Option.isSome hreason
  rw [chances, chances, countP_dispatch hs hp, hshut, hp, List.countP_cons, he,
    Option.isNone_none]
  simp only [if_true]
  omega

/-- The first request marks the shutdown, and this was a chance. -/
theorem chances_of_first (hs : s.context.HandlersHave Action.RequestsOnly)
    (hp : s.context.pending = e :: rest) (he : e.request? ≠ none) (hnone : s.reason = none) :
    (s.afterTake.dispatch e).1.chances < s.chances := by
  have hreason : (s.afterTake.dispatch e).1.reason = s.reason.or e.request? :=
    (s.afterTake.reason_dispatch e).1
  have hshut : (s.afterTake.dispatch e).1.context.isShutdown = true := by
    rw [hnone, Option.none_or] at hreason
    rw [isShutdown_iff, hreason]
    exact he
  rw [chances, chances, countP_dispatch hs hp, countP_of_isRequest hp he, hshut,
    not_isShutdown_iff.mpr hnone]
  simp

/-- A late request is dropped, and then the queue is shorter. -/
theorem pending_of_late (hp : s.context.pending = e :: rest) (he : e.request? ≠ none)
    (hlate : s.reason ≠ none) : (s.afterTake.dispatch e).1.context.pending = rest := by
  cases e with
  | processStarted | processExited => exact absurd rfl he
  | shutdown reason signal =>
    obtain ⟨-, -, hafter⟩ := Moment.dropped_of_reason
      (m := .dispatch s (.shutdown reason signal)) rfl hlate
    show (Moment.dispatch s (.shutdown reason signal)).after.context.pending = rest
    rcases hafter with h | h <;> rw [h] <;> exact pending_afterTake hp

/-- **A dispatch uses up a chance**, or drops a request and makes the queue shorter. -/
theorem descends (hs : s.context.HandlersHave Action.RequestsOnly)
    (hp : s.context.pending = e :: rest) :
    (s.afterTake.dispatch e).1.chances < s.chances ∨
      (s.afterTake.dispatch e).1.chances = s.chances ∧
        (s.afterTake.dispatch e).1.context.pending.length < s.context.pending.length := by
  by_cases he : e.request? = none
  · exact Or.inl (chances_of_other hs hp he)
  by_cases hlate : s.reason = none
  · exact Or.inl (chances_of_first hs hp he hlate)
  refine Or.inr ⟨?_, ?_⟩
  · have hreason : (s.afterTake.dispatch e).1.reason = s.reason.or e.request? :=
      (s.afterTake.reason_dispatch e).1
    have hshut : (s.afterTake.dispatch e).1.context.isShutdown = true := by
      rw [isShutdown_iff, hreason]
      exact fun h => hlate (Option.or_eq_none_iff.mp h).1
    rw [chances, chances, countP_dispatch hs hp, countP_of_isRequest hp he, hshut,
      isShutdown_iff.mpr hlate]
  · rw [pending_of_late hp he hlate, hp]
    exact Nat.lt_succ_self _

end Descends

/-- There is a bound on all the events that a queue can lead to. -/
theorem exists_bound (s : Service) (hs : s.context.HandlersHave Action.RequestsOnly) :
    ∃ N, ∀ es t, s.Dispatches es t → es.length + t.context.pending.length ≤ N := by
  cases hp : s.context.pending with
  | nil =>
    refine ⟨0, ?_⟩
    intro es t h
    cases h with
    | nil => rw [hp]; rfl
    | cons hp' => rw [hp] at hp'; cases hp'
  | cons e rest =>
    have htake : s.afterTake.context.HandlersHave Action.RequestsOnly := hs
    obtain ⟨N, hN⟩ := exists_bound (s.afterTake.dispatch e).1 (requests_dispatch htake e).1
    refine ⟨rest.length + 1 + N, ?_⟩
    intro es t h
    cases h with
    | nil =>
      rw [hp, List.length_nil, List.length_cons]
      omega
    | cons hp' _ h =>
      rw [hp] at hp'
      cases hp'
      have hle := hN _ _ h
      rw [List.length_cons]
      omega
termination_by (s.chances, s.context.pending.length)
decreasing_by
  rw [Prod.lex_def]
  exact descends hs hp

end Service

/-- **Chains of shutdown requests end by themselves.**  If no registered handler can come to emit
anything but requests to shut down, then the events of the queue and all those that follow from
them are finitely many, and a drain whose bound allows for so many does not fail at the bound. -/
theorem shutdown_chain_ends {s : Service}
    (hs : s.context.HandlersHave Action.RequestsOnly) :
    ∃ N, (∀ es t, s.Dispatches es t → es.length + t.context.pending.length ≤ N) ∧
      ∀ m, N ≤ m → ∀ limit, (s.withBound m).drain.2 ≠ .error (.dispatchLimit limit) := by
  obtain ⟨N, hN⟩ := s.exists_bound hs
  refine ⟨N, hN, ?_⟩
  intro m hm limit hlimit
  have hend := (s.withBound m).ends_drain
  rw [hlimit] at hend
  generalize (s.withBound m).taken = es, (s.withBound m).drain.1 = t at hend
  cases hend with
  | overrun hd hlen hp =>
    -- one event more than the bound, all of which follow from the queue of `s`
    have hle := hN _ _ (hd.withBound s.maxDispatches)
    rw [Service.context_withBound, hp, List.length_cons] at hle
    have hbound : (s.withBound m).maxDispatches = m := rfl
    omega

/-- A service that has three events to dispatch.  The end of a process makes it request a
shutdown; what handles the shutdown requests it twice more and registers another such handler,
which is there when the next process ends. -/
def mutualRequests : Service where
  context :=
    { Context.ofEnvironment .empty with
      pending := [.processExited "worker" none (some 1), .processExited "talker" none (some 0),
        .processStarted "late" 7]
      handlers :=
        [⟨"ended", .processExited, none, [.shutdown none (.literal "ended")]⟩,
          ⟨"stop", .shutdownEvent, none,
            [.group none true [.shutdown none (.literal "again"),
              .emit none (.shutdown "once more" true)],
            .register none ⟨"any", .event, none, [.shutdown none (.literal "still")]⟩]⟩] }
  maxDispatches := 4
  executed := 0

/-- Five events go past the bound of four, but there is a bound that is enough. -/
theorem shutdown_chain_ends_mutualRequests :
    mutualRequests.context.HandlersHave Action.RequestsOnly ∧
      (mutualRequests.drain.2 matches .error (.dispatchLimit 4)) ∧
      ∃ N, ∀ m, N ≤ m → ∀ limit, (mutualRequests.withBound m).drain.2 ≠
        .error (.dispatchLimit limit) := by
  have hs : mutualRequests.context.HandlersHave Action.RequestsOnly := by
    have hshutdown : ∀ reason, (Action.shutdown none reason).Throughout Action.RequestsOnly :=
      fun _ => Action.throughout_of_leaf (by simp) (by simp) (Action.requestsOnly_of_ne (by simp))
    have hemit : (Action.emit none (.shutdown "once more" true)).Throughout
        Action.RequestsOnly :=
      Action.throughout_of_leaf (by simp) (by simp)
        (Action.requestsOnly_emit (by simp [Event.request?]))
    simp [mutualRequests, Context.HandlersHave, hshutdown, hemit, Action.requestsOnly_of_ne]
  obtain ⟨N, -, hN⟩ := shutdown_chain_ends hs
  exact ⟨hs, by cbv, N, hN⟩

end LaunchPlan
