import Mathlib
import LaunchPlan.Proofs.Emission

/-! # Events are dispatched in order

A drain takes events off the front of the queue while the actions of handlers put new ones at
its end, register handlers and remove them.  This module proves what that amounts to.

* The queue is first in, first out: the events taken, then those still waiting, are those that
  waited at the beginning, then those emitted meanwhile.  What was emitted is read off the log
  (`Path.grows`), and off the actions that the handlers executed (`Drains.emits`).
* An event goes to the handlers that were registered for it when it was taken
  (`Service.exists_carriedOut`): whatever its handlers register or remove, the actions visited
  are those of this snapshot, once for each registration.
* The moments of a drain are linked: each finds the service that the one before it left, so all
  that one event sets off is over before the next event is taken.

`drain_fifo` puts these together for the drain of any service.
-/
namespace LaunchPlan

/-! ## The queue -/

namespace Service

theorem grows_acknowledge (s : Service) (e : Event) :
    s.context.Grows (s.acknowledge e).1.context := by
  rcases s.acknowledge_cases e with ⟨reason, _, -, -, h⟩ | ⟨reason, _, -, -, h⟩ | ⟨-, h⟩
  · rw [h]
    exact .note _ rfl
  · rw [h]
    exact (Context.Grows.note _ (r := .shutdownRequested reason) rfl).trans (.of_eq rfl rfl)
  · rw [h]
    exact .refl _

/-- What handlers do to the queue is to put events at its end. -/
theorem grows_dispatch (s : Service) (e : Event) : s.context.Grows (s.dispatch e).1.context := by
  rcases s.dispatch_cases e with ⟨reason, _, -, -, hd, -⟩ | ⟨u, c, r, hack, hcarry, hd, -⟩
  · rw [hd]
    exact .note _ rfl
  · have hu : s.context.Grows u.context := by
      have := s.grows_acknowledge e
      rwa [hack] at this
    have hc : s.context.Grows c := by
      refine (hcarry.invariant (P := fun d => s.context.Grows d) hu ?_ ?_).2
      · intro a _ d hd
        exact hd.trans (d.continues_visitDepthFirst a).grows
      · intro d o hd
        exact hd.trans (.of_eq rfl rfl)
    rcases hd with hd | hd <;> rw [hd]
    · exact hc
    · exact hc.trans (.note c rfl)

end Service

/-- **First in, first out**, along any path of a launch. -/
theorem Path.grows {s t : Service} {ms : List Moment} (h : Path s ms t) :
    ∃ records, t.context.log.toList = s.context.log.toList ++ records ∧
      ms.filterMap Moment.taken? ++ t.context.pending =
        s.context.pending ++ records.filterMap Record.emission? := by
  -- a step that grows the context goes before the rest of the path
  have cons : ∀ {c : Context} {u : Service} {es : List Event}, c.Grows u.context →
      (∃ records, t.context.log.toList = u.context.log.toList ++ records ∧
        es ++ t.context.pending = u.context.pending ++ records.filterMap Record.emission?) →
      ∃ records, t.context.log.toList = c.log.toList ++ records ∧
        es ++ t.context.pending = c.pending ++ records.filterMap Record.emission? := by
    rintro c u es ⟨r, hlog, hpending⟩ ⟨r', hlog', hpending'⟩
    refine ⟨r ++ r', by rw [hlog', hlog, List.append_assoc], ?_⟩
    rw [hpending', hpending, List.filterMap_append, List.append_assoc]
  induction h with
  | nil => exact ⟨[], by simp, by simp⟩
  | note hr _ ih => exact cons (.note _ hr.emission?_eq_none) (ih cons)
  | emit _ ih => exact cons (.emit _ _) (ih cons)
  | @entity s a _ _ _ ih =>
    have hafter : s.context.Grows (s.afterVisit a).context := by
      rw [s.context_afterVisit a]
      exact (s.context.continues_visitDepthFirst a).grows
    exact cons hafter (ih cons)
  | @dispatch s e rest _ _ hp _ ih =>
    obtain ⟨records, hlog, hpending⟩ := cons (s.afterTake.grows_dispatch e) (ih cons)
    refine ⟨records, hlog, ?_⟩
    rw [Service.pending_afterTake hp] at hpending
    simpa [Moment.taken?, hp] using hpending
  | @overrun s e rest _ _ hp _ ih =>
    obtain ⟨records, hlog, hpending⟩ := ih cons
    refine ⟨records, hlog, ?_⟩
    rw [Service.pending_afterTake hp] at hpending
    simpa [Moment.taken?, hp] using hpending

/-! ## What handlers emit -/

/-- Actions that are carried out put what they and all that they yield emit behind the queue. -/
theorem Carries.emits {c d : Context} {l : List Action} {vs : List Visit} {r : Option Failure}
    (h : Carries c l vs d r) : d.pending = c.pending ++
      (vs.flatMap fun v => v.context.trail [v.action]).filterMap Visit.emission? := by
  refine h.composes (R := fun c vs d => d.pending = c.pending ++ vs.filterMap Visit.emission?)
    (fun _ => (List.append_nil _).symm) ?_ Context.emits_visitDepthFirst
    (fun _ _ => (List.append_nil _).symm)
  intro c d e us vs hus hvs
  rw [hvs, hus, List.filterMap_append, List.append_assoc]

namespace Service

theorem pending_acknowledge (s : Service) (e : Event) :
    (s.acknowledge e).1.context.pending = s.context.pending := by
  rcases s.acknowledge_cases e with ⟨_, _, -, -, h⟩ | ⟨_, _, -, -, h⟩ | ⟨-, h⟩ <;> rw [h] <;> rfl

/-- A dispatch puts what is emitted in the runs of handlers behind the queue. -/
theorem emits_dispatch (s : Service) (e : Event) :
    (s.afterTake.dispatch e).1.context.pending = s.afterTake.context.pending ++
      (Moment.dispatch s e).visits.filterMap Visit.emission? := by
  rw [Moment.visits, Moment.roots]
  rcases s.afterTake.dispatch_cases e with
    ⟨_, _, -, -, hd, hruns⟩ | ⟨u, c, r, hu, hcarry, hd, -⟩
  · rw [hd, hruns]
    exact (List.append_nil _).symm
  · have hack := s.afterTake.pending_acknowledge e
    rw [hu] at hack
    have hemits := hcarry.emits
    rw [hack] at hemits
    rcases hd with hd | hd <;> rw [hd] <;> exact hemits

/-- **First in, first out**, by what is executed: the events emitted in a drain are those of the
actions that its handlers executed, in that order. -/
theorem Drains.emits {b : Nat} {s t : Service} {ms : List Moment} {r : Except ServiceError Unit}
    (h : Drains b s ms t r) : ms.filterMap Moment.taken? ++ t.context.pending =
      s.context.pending ++ (ms.flatMap Moment.visits).filterMap Visit.emission? := by
  induction h with
  | empty hp => simp [hp]
  | @overrun s e rest hp =>
    show e :: s.afterTake.context.pending = s.context.pending ++ []
    rw [pending_afterTake hp, hp, List.append_nil]
  | @failed b s e rest err hp _ =>
    show e :: (s.afterTake.dispatch e).1.context.pending = _
    rw [emits_dispatch, pending_afterTake hp, hp, List.flatMap_singleton, List.cons_append]
  | @next b s e rest ms t r hp _ _ ih =>
    show e :: (ms.filterMap Moment.taken? ++ t.context.pending) = _
    rw [ih, emits_dispatch, pending_afterTake hp, hp, List.flatMap_cons, List.filterMap_append,
      List.cons_append, List.append_assoc]

end Service

/-! ## The snapshot -/

/-- The visit and all that it yields come to an end without a failure. -/
def Visit.Completes (v : Visit) : Prop := ∃ n, (v.context.visitDepthFirst v.action).2 = .ok n

/-- The visit, or one that it yields, fails. -/
def Visit.FailsWith (v : Visit) (f : Failure) : Prop :=
  (v.context.visitDepthFirst v.action).2 = .error f

/-- **What became of a list of actions**: all were visited in order and completed, or the visits
stop with the first that failed, and what is left was not visited. -/
inductive CarriedOut (todo : List Action) (visits : List Visit) : Option Failure → Prop
  | done : visits.map Visit.action = todo → (∀ v ∈ visits, v.Completes) →
      CarriedOut todo visits none
  | failed {before v left f} : visits = before ++ [v] →
      todo = visits.map Visit.action ++ left → (∀ u ∈ before, u.Completes) → v.FailsWith f →
      CarriedOut todo visits (some f)

theorem Carries.carriedOut {c d : Context} {l : List Action} {vs : List Visit}
    {r : Option Failure} (h : Carries c l vs d r) : CarriedOut l vs r := by
  cases r with
  | none => exact .done (h.map_action rfl) (h.completes rfl)
  | some f =>
    obtain ⟨before, v, left, hvs, hl, hok, hfail⟩ := h.exists_failed rfl
    exact .failed hvs hl hok hfail

/-- The event is a request to shut down that comes too late. -/
def Service.DropsEvent (s : Service) (e : Event) : Prop :=
  s.context.isShutdown = true ∧ ∃ reason signal, e = .shutdown reason signal

/-- **The event is handled by the snapshot** of the handlers that are registered for it.  Their
actions are visited in the order of the registrations, for each registration once, whatever they
do to the handlers that are registered meanwhile.  The visits lead to the context in which the
dispatch ends, and the failure of one of them is the answer of the dispatch. -/
def Service.HandlesSnapshot (s : Service) (e : Event) : Prop :=
  ∃ c f?, CarriedOut ((s.context.handlers.filter (·.wants e)).flatMap EventHandler.actions)
      ((s.runsOf e).flatMap (HandlerRun.roots e)) f? ∧
    Carries (s.acknowledge e).1.context
      ((s.context.handlers.filter (·.wants e)).flatMap EventHandler.actions)
      ((s.runsOf e).flatMap (HandlerRun.roots e)) c f? ∧
    ((s.dispatch e).1.context = c ∨ (s.dispatch e).1.context = c.note (.unhandled e)) ∧
    (s.dispatch e).2 = match f? with
      | none => .ok ()
      | some f => .error (.action f)

/-- An event that is not dropped is handled by the snapshot. -/
theorem Service.handlesSnapshot (s : Service) {e : Event} (h : ¬ s.DropsEvent e) :
    s.HandlesSnapshot e := by
  rcases s.dispatch_cases e with ⟨reason, signal, he, hs, -⟩ | ⟨u, c, f?, hack, hcarry, hd, hr⟩
  · exact absurd ⟨hs, reason, signal, he⟩ h
  · refine ⟨c, f?, hcarry.carriedOut, ?_, hd, hr⟩
    rw [hack]
    exact hcarry

/-- An event that is dropped leaves only a record. -/
theorem Service.runsOf_of_dropsEvent (s : Service) {e : Event} (h : s.DropsEvent e) :
    s.runsOf e = [] ∧ (s.dispatch e).2 = .ok () := by
  obtain ⟨hs, reason, signal, rfl⟩ := h
  rcases s.dispatch_cases (.shutdown reason signal) with
    ⟨_, _, -, -, hd, hruns⟩ | ⟨u, -, -, hack, -⟩
  · exact ⟨hruns, by rw [hd]⟩
  · rcases s.acknowledge_cases (.shutdown reason signal) with
      ⟨_, _, -, -, h⟩ | ⟨_, _, -, hnot, -⟩ | ⟨hne, -⟩
    · rw [h] at hack
      cases hack
    · rw [hs] at hnot
      cases hnot
    · exact absurd rfl (hne reason signal)

/-! ## Drains -/

namespace Service.Drains
variable {b : Nat} {s t : Service} {ms : List Moment} {r : Except ServiceError Unit}

theorem linked (h : Drains b s ms t r) : Linked id s ms t := by
  induction h with
  | empty => rfl
  | overrun | failed => exact ⟨rfl, rfl⟩
  | next _ _ _ ih => exact ⟨rfl, ih⟩

theorem pending_eq_nil (h : Drains b s ms t r) (hr : r = .ok ()) : t.context.pending = [] := by
  induction h with
  | empty hp => exact hp
  | overrun | failed => cases hr
  | next _ _ _ ih => exact ih hr

/-- A drain takes the event at the head of the queue, and dispatches it unless that is beyond
the bound. -/
theorem exists_head (h : Drains b s ms t r) {m : Moment} (hm : m ∈ ms) :
    ∃ u e rest, u.context.pending = e :: rest ∧
      (m = .dispatch u e ∨ m = .overrun u e ∧ ∃ limit, r = .error (.dispatchLimit limit)) := by
  induction h with
  | empty => exact absurd hm List.not_mem_nil
  | overrun hp =>
    rw [List.mem_singleton] at hm
    exact ⟨_, _, _, hp, Or.inr ⟨hm, _, rfl⟩⟩
  | failed hp =>
    rw [List.mem_singleton] at hm
    exact ⟨_, _, _, hp, Or.inl hm⟩
  | next hp _ _ ih =>
    rcases List.mem_cons.mp hm with hm | hm
    · exact ⟨_, _, _, hp, Or.inl hm⟩
    · exact ih hm

/-- The first dispatch that fails ends the drain. -/
theorem ends {before after : List Moment} {u : Service} {e : Event} {err : ServiceError}
    (h : Drains b s ms t r) (hms : ms = before ++ .dispatch u e :: after)
    (herr : (u.afterTake.dispatch e).2 = .error err) : after = [] ∧ r = .error err := by
  -- the place of the dispatch in the list moves with the recursion of the drain
  induction h generalizing before with
  | empty => simp at hms
  | overrun =>
    cases before <;> simp at hms
  | @failed _ s' e' _ err' _ herr' =>
    cases before with
    | nil =>
      cases hms
      rw [herr'] at herr
      cases herr
      exact ⟨rfl, rfl⟩
    | cons m before => simp at hms
  | @next _ s' e' _ _ _ _ _ hok _ ih =>
    cases before with
    | nil =>
      cases hms
      rw [hok] at herr
      cases herr
    | cons m before =>
      rw [List.cons_append, List.cons.injEq] at hms
      exact ih hms.2

/-- The failure that a drain reports is that of its last dispatch. -/
theorem exists_last {f : Failure} (h : Drains b s ms t r) (hr : r = .error (.action f)) :
    ∃ before u e, ms = before ++ [.dispatch u e] ∧
      (u.afterTake.dispatch e).2 = .error (.action f) := by
  induction h with
  | empty | overrun => cases hr
  | @failed _ s e _ _ _ herr =>
    cases hr
    exact ⟨[], s, e, rfl, herr⟩
  | next _ _ _ ih =>
    obtain ⟨before, u, e, hms, herr⟩ := ih hr
    exact ⟨_ :: before, u, e, by rw [hms, List.cons_append], herr⟩

end Service.Drains

/-- **A drain in order**: moments `ms` lead from `s` to `t` with the answer `r`.

* `queue`: the events taken, then those still waiting, are those that waited at the beginning,
  then those that the new records announce; none is left if the drain succeeds.
* `executed`: the events that come after those of the beginning are also those of the emissions
  and shutdowns that the handlers executed, nested actions included, in the order of execution.
* `linked`, `head`: what one event sets off is over before the next is taken, off the head of
  the queue.  Every event taken is dispatched unless the drain fails at the bound.
* `handled`, `dropped`: an event goes to the handlers registered for it when it was taken, but a
  request to shut down that comes too late goes to none.
* `ends`, `failed`: the first action that fails ends the drain, and only such an action or the
  bound make it fail. -/
structure FifoDrain (s : Service) (ms : List Moment) (t : Service)
    (r : Except ServiceError Unit) : Prop where
  queue : ∃ records, t.context.log.toList = s.context.log.toList ++ records ∧
    ms.filterMap Moment.taken? ++ t.context.pending =
      s.context.pending ++ records.filterMap Record.emission?
  executed : ms.filterMap Moment.taken? ++ t.context.pending =
    s.context.pending ++ (ms.flatMap Moment.visits).filterMap Visit.emission?
  complete : r = .ok () → t.context.pending = []
  linked : Linked id s ms t
  head : ∀ m ∈ ms, ∃ u e rest, u.context.pending = e :: rest ∧
    (m = .dispatch u e ∨ m = .overrun u e ∧ ∃ limit, r = .error (.dispatchLimit limit))
  handled : ∀ u e, .dispatch u e ∈ ms → ¬ u.afterTake.DropsEvent e → u.afterTake.HandlesSnapshot e
  dropped : ∀ u e, .dispatch u e ∈ ms → u.afterTake.DropsEvent e →
    (Moment.dispatch u e).runs = [] ∧ (u.afterTake.dispatch e).2 = .ok ()
  ends : ∀ before u e after err, ms = before ++ .dispatch u e :: after →
    (u.afterTake.dispatch e).2 = .error err → after = [] ∧ r = .error err
  failed : ∀ f, r = .error (.action f) → ∃ before u e, ms = before ++ [.dispatch u e] ∧
    (u.afterTake.dispatch e).2 = .error (.action f)

/-- **Events are dispatched in order**, each to the handlers that were registered for it when
it was taken, by the drain of any service. -/
theorem drain_fifo (s : Service) :
    FifoDrain s (s.drainMoments s.maxDispatches) s.drain.1 s.drain.2 := by
  have h := Service.drains_drainWithin s.maxDispatches s
  refine
    { queue := h.path.grows
      executed := h.emits
      complete := h.pending_eq_nil
      linked := h.linked
      head := fun m hm => h.exists_head hm
      handled := fun u e _ hkeep => u.afterTake.handlesSnapshot hkeep
      dropped := fun u e _ hdrop => u.afterTake.runsOf_of_dropsEvent hdrop
      ends := fun before u e after err hms herr => h.ends hms herr
      failed := fun f hr => h.exists_last hr }

/-- A handler that is registered twice, and in its first run removes both registrations, is
still run a second time for the same event, and not for the next one. -/
example :
    let h : Handler := ⟨"h", .event, none, [.unregister none ⟨"h", .event, none, []⟩]⟩
    let started := Event.processStarted "talker" 7
    let c := (((Context.ofEnvironment .empty).register h).register h).emit started
    let s : Service := ⟨c.emit started, 8, 0⟩
    (s.drainMoments 8).map (fun m => m.roots.length) = [2, 0] := by cbv

end LaunchPlan
