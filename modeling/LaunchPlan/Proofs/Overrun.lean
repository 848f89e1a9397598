import LaunchPlan.Proofs.Bound

/-! # At the bound and away from it

A drain looks whether its bound is used up only once it has taken the next event off the queue.
So a drain that fails at the bound loses this event (`overrun_loses_one`): it is not dispatched,
and it does not wait any more either.  If it is the request to shut down, the launch never does.
Any other drain loses nothing, also one in which an action fails.

A bound that is not hit makes no difference.  With a higher one a drain takes the same events
and ends in the same way (`Service.Ends.raise`), and so does a call, whose drains each have the
higher bound (`raised_bound_same`).
-/
namespace LaunchPlan

/-! ## The event beyond the bound -/

/-- The event that is dispatched. -/
def Moment.dispatched? : Moment → Option Event
  | dispatch _ e => some e
  | _ => none

namespace Service

/-- The events that a drain dispatches. -/
def dispatched (s : Service) : List Event :=
  (s.drainMoments s.maxDispatches).filterMap Moment.dispatched?

/-- **The events that a drain loses**: those between the events that it dispatches and the events
that still wait behind it, when all are lined up that waited before or were emitted meanwhile. -/
def Loses (s : Service) (lost : List Event) : Prop :=
  ∃ records, s.drain.1.context.log.toList = s.context.log.toList ++ records ∧
    s.dispatched ++ lost ++ s.drain.1.context.pending =
      s.context.pending ++ records.filterMap Record.emission?

/-- A drain dispatches all events that it takes, but for the last one if it fails at the
bound. -/
theorem Drains.taken_eq {b : Nat} {s t : Service} {ms : List Moment}
    {r : Except ServiceError Unit} (h : Drains b s ms t r) :
    (r = .error (.dispatchLimit s.maxDispatches) ∧ ∃ e,
        ms.filterMap Moment.taken? = ms.filterMap Moment.dispatched? ++ [e]) ∨
      (∀ limit, r ≠ .error (.dispatchLimit limit)) ∧
        ms.filterMap Moment.taken? = ms.filterMap Moment.dispatched? := by
  induction h with
  | empty => exact Or.inr ⟨nofun, rfl⟩
  | @overrun s e => exact Or.inl ⟨rfl, e, rfl⟩
  | failed _ herr =>
    obtain ⟨f, rfl⟩ := dispatch_error herr
    exact Or.inr ⟨nofun, rfl⟩
  | @next _ s e _ ms _ _ _ _ _ ih =>
    have htaken : (Moment.dispatch s e).taken? = some e := rfl
    have hdispatched : (Moment.dispatch s e).dispatched? = some e := rfl
    rw [List.filterMap_cons_some htaken, List.filterMap_cons_some hdispatched]
    rcases ih with ⟨hr, last, hms⟩ | ⟨hr, hms⟩
    · rw [maxDispatches_dispatch] at hr
      exact Or.inl ⟨hr, last, congrArg (e :: ·) hms⟩
    · exact Or.inr ⟨hr, congrArg (e :: ·) hms⟩

/-- A drain loses the event that it took beyond the bound, and nothing if there is none. -/
theorem loses_cases (s : Service) :
    (s.drain.2 = .error (.dispatchLimit s.maxDispatches) ∧ ∃ e, s.Loses [e] ∧
        s.dispatched.length = s.maxDispatches) ∨
      (∀ limit, s.drain.2 ≠ .error (.dispatchLimit limit)) ∧ s.Loses [] := by
  have hdrains := drains_drainWithin s.maxDispatches s
  obtain ⟨records, hlog, hqueue⟩ := hdrains.path.grows
  rcases hdrains.taken_eq with ⟨hr, e, htaken⟩ | ⟨hr, htaken⟩
  · rw [htaken] at hqueue
    refine Or.inl ⟨hr, e, ⟨records, hlog, hqueue⟩, ?_⟩
    have hlength := ((hdrains.ends_taken.limit_iff _).mp hr).2
    rw [htaken, List.length_append, List.length_singleton] at hlength
    exact Nat.succ_inj.mp hlength
  · rw [htaken] at hqueue
    exact Or.inr ⟨hr, records, hlog, by rw [List.append_nil]; exact hqueue⟩

/-- How many events are lost is determined. -/
theorem Loses.length_eq {s : Service} {lost lost' : List Event} (h : s.Loses lost)
    (h' : s.Loses lost') : lost.length = lost'.length := by
  obtain ⟨records, hlog, hqueue⟩ := h
  obtain ⟨records', hlog', hqueue'⟩ := h'
  rw [hlog, List.append_cancel_left_eq] at hlog'
  rw [hlog', ← hqueue'] at hqueue
  have hlength := congrArg List.length hqueue
  simp only [List.length_append] at hlength
  omega

theorem loses_nil_iff {s : Service} :
    s.Loses [] ↔ ∀ limit, s.drain.2 ≠ .error (.dispatchLimit limit) := by
  rcases s.loses_cases with ⟨hr, e, hlost, -⟩ | ⟨hr, hlost⟩
  · exact ⟨fun h => (nomatch h.length_eq hlost), fun h => absurd hr (h _)⟩
  · exact ⟨fun _ => hr, fun _ => hlost⟩

theorem limit_iff_loses {s : Service} {limit : Nat} :
    s.drain.2 = .error (.dispatchLimit limit) ↔
      limit = s.maxDispatches ∧ s.dispatched.length = s.maxDispatches ∧ ∃ e, s.Loses [e] := by
  rcases s.loses_cases with ⟨hr, e, hlost, hlength⟩ | ⟨hr, hlost⟩
  · rw [hr]
    constructor
    · intro h
      cases h
      exact ⟨rfl, hlength, e, hlost⟩
    · rintro ⟨rfl, -⟩
      rfl
  · constructor
    · exact fun h => absurd h (hr limit)
    · rintro ⟨-, -, e, h⟩
      exact nomatch h.length_eq hlost

end Service

/-- **A drain that fails at the bound loses one event**, after as many dispatches as the bound
allows, and a drain that does not fail there loses none. -/
theorem overrun_loses_one (s : Service) :
    (∀ limit, s.drain.2 = .error (.dispatchLimit limit) ↔
      limit = s.maxDispatches ∧ s.dispatched.length = s.maxDispatches ∧ ∃ e, s.Loses [e]) ∧
    (s.Loses [] ↔ ∀ limit, s.drain.2 ≠ .error (.dispatchLimit limit)) :=
  ⟨fun _ => Service.limit_iff_loses, Service.loses_nil_iff⟩

/-- A service that may dispatch one event in a drain, and what handles the event that waits
requests a shutdown. -/
def lateRequest : Service where
  context :=
    { Context.ofEnvironment .empty with
      pending := [.processStarted "talker" 7]
      handlers := [⟨"h", .processStarted, none, [.shutdown none (.literal "stop")]⟩] }
  maxDispatches := 1
  executed := 0

/-- Not every drain that fails at the bound leaves all that it does not dispatch in the queue.
Here the request to shut down is lost, and no later drain finds it. -/
theorem lateRequest_lost :
    (¬ ∀ (s : Service) (limit : Nat), s.drain.2 = .error (.dispatchLimit limit) → s.Loses []) ∧
      lateRequest.drain.2 = .error (.dispatchLimit 1) ∧
      lateRequest.dispatched = [.processStarted "talker" 7] ∧
      lateRequest.drain.1.context.log.toList.filterMap Record.emission? =
        [.shutdown "stop" false] ∧
      lateRequest.drain.1.context.pending = [] ∧
      lateRequest.drain.1.drain.1.context.shutdownReason = none := by
  have hlimit : lateRequest.drain.2 = .error (.dispatchLimit 1) := by cbv
  refine ⟨?_, hlimit, by cbv, by cbv, by cbv, by cbv⟩
  intro h
  exact Service.loses_nil_iff.mp (h lateRequest 1 hlimit) 1 hlimit

/-! ## A bound that is not hit -/

namespace Service

/-- A drain that does not fail at the bound goes the same way with a higher one. -/
theorem Ends.raise {b b' m : Nat} {s t : Service} {es : List Event}
    {r : Except ServiceError Unit} (h : Ends b s es t r) (hb : b ≤ b')
    (hr : ∀ limit, r ≠ .error (.dispatchLimit limit)) :
    Ends b' (s.withBound m) es (t.withBound m) r := by
  cases h with
  | empty hd hle hempty => exact .empty (hd.withBound m) (hle.trans hb) hempty
  | overrun => exact absurd rfl (hr _)
  | @failed _ u e _ f hd hlt hp hfail =>
    have hdispatch := u.afterTake.dispatch_withBound m e
    rw [← afterTake_withBound] at hdispatch
    have hfail' : ((u.withBound m).afterTake.dispatch e).2 = .error (.action f) := by
      rw [hdispatch]
      exact hfail
    have hend := Ends.failed (hd.withBound m) (Nat.lt_of_lt_of_le hlt hb) hp hfail'
    rw [hdispatch] at hend
    exact hend

section Raise
variable {s : Service} {m : Nat} (hm : s.maxDispatches ≤ m)
include hm

theorem drain_raise (h : ∀ limit, s.drain.2 ≠ .error (.dispatchLimit limit)) :
    (s.withBound m).drain = (s.drain.1.withBound m, s.drain.2) :=
  (s.ends_drain.raise hm h).drainWithin

theorem visit_raise {a : Action} (h : ∀ limit, (s.visit a).2 ≠ .error (.dispatchLimit limit)) :
    (s.withBound m).visit a = ((s.visit a).1.withBound m, (s.visit a).2) := by
  unfold visit at h ⊢
  rw [context_withBound]
  rcases hv : s.context.visitDepthFirst a with ⟨c, f | n⟩
  · rfl
  · rw [hv] at h
    exact drain_raise (s := { s with context := c, executed := s.executed + n }) hm h

end Raise

theorem maxDispatches_visit (s : Service) (a : Action) :
    (s.visit a).1.maxDispatches = s.maxDispatches := by
  unfold visit
  rcases s.context.visitDepthFirst a with ⟨c, f | n⟩
  · rfl
  · exact (ends_drain { s with context := c, executed := s.executed + n }).maxDispatches

theorem visitUntilShutdown_raise {s : Service} {l : List Action} {m : Nat}
    (hm : s.maxDispatches ≤ m)
    (h : ∀ limit, (s.visitUntilShutdown l).2 ≠ .error (.dispatchLimit limit)) :
    (s.withBound m).visitUntilShutdown l =
      ((s.visitUntilShutdown l).1.withBound m, (s.visitUntilShutdown l).2) := by
  induction l generalizing s with
  | nil => rfl
  | cons a rest ih =>
    rw [visitUntilShutdown] at h ⊢
    rw [visitUntilShutdown, context_withBound]
    by_cases hs : s.context.isShutdown = true
    · rw [if_pos hs, if_pos hs]
      rfl
    · rw [if_neg hs] at h ⊢
      rw [if_neg hs]
      have hmax := s.maxDispatches_visit a
      -- neither the drain behind this action nor one behind a later action fails at the bound
      have hvisit : ∀ limit, (s.visit a).2 ≠ .error (.dispatchLimit limit) := by
        intro limit hlimit
        refine h limit ?_
        rcases hv : s.visit a with ⟨t, err | ⟨⟩⟩
        · rw [hv] at hlimit
          exact hlimit
        · rw [hv] at hlimit
          cases hlimit
      rw [visit_raise hm hvisit]
      rcases hv : s.visit a with ⟨t, err | ⟨⟩⟩
      · rfl
      · rw [hv] at h hmax
        exact ih (hmax.le.trans hm) h

theorem run_raise {s : Service} {d : Description} {m : Nat} (hm : s.maxDispatches ≤ m)
    (h : ∀ limit, (s.run d).2 ≠ .error (.dispatchLimit limit)) :
    (s.withBound m).run d = ((s.run d).1.withBound m, (s.run d).2) := by
  have hinclude : ∀ limit, ((s.note (.launching d.size)).visitUntilShutdown d.actions).2 ≠
      .error (.dispatchLimit limit) := by
    intro limit hlimit
    refine h limit ?_
    rw [run, includeDescription]
    rcases hv : (s.note (.launching d.size)).visitUntilShutdown d.actions with ⟨t, err | ⟨⟩⟩
    · rw [hv] at hlimit
      cases hlimit
      rfl
    · rw [hv] at hlimit
      cases hlimit
  have hraise := visitUntilShutdown_raise (s := s.note (.launching d.size)) hm hinclude
  have hnote : (s.withBound m).note (.launching d.size) =
      (s.note (.launching d.size)).withBound m := rfl
  rw [run, run, includeDescription, includeDescription, hnote, hraise]
  rcases (s.note (.launching d.size)).visitUntilShutdown d.actions with ⟨t, err | ⟨⟩⟩ <;> rfl

end Service

/-- **Raising the bound changes nothing that worked.**  A call that does not fail at the bound
answers the same with any higher bound, and leaves the same service behind, but for the bound:
the same context, log included, and the same number of actions visited. -/
theorem raised_bound_same {s : Service} {m : Nat} (hm : s.maxDispatches ≤ m) (k : Service.Call)
    (h : ∀ limit, (s.call k).2 ≠ some (.dispatchLimit limit)) :
    (s.withBound m).call k = ((s.call k).1.withBound m, (s.call k).2) := by
  cases k with
  | includeDescription d =>
    have hinclude : (s.withBound m).includeDescription d =
        ((s.includeDescription d).1.withBound m, (s.includeDescription d).2) :=
      Service.visitUntilShutdown_raise hm fun limit hl =>
        h limit (Service.errorOf_eq_some_iff.mpr hl)
    rw [Service.call, Service.call, hinclude]
    rfl
  | run d =>
    have hrun := Service.run_raise hm fun limit hl =>
      h limit (Service.errorOf_eq_some_iff.mpr hl)
    rw [Service.call, Service.call, hrun]
    rfl
  | deliver e =>
    have hdeliver : (s.withBound m).deliver e = ((s.deliver e).1.withBound m, (s.deliver e).2) :=
      Service.drain_raise (s := { s with context := s.context.emit e }) hm fun limit hl =>
        h limit (Service.errorOf_eq_some_iff.mpr hl)
    rw [Service.call, Service.call, hdeliver]
    rfl

/-- A service that may dispatch two events in a drain.  What handles the end of a process
requests a shutdown, and what handles the shutdown fails if the launch lacks an argument. -/
def exactBound : Service where
  context :=
    { Context.ofEnvironment .empty with
      handlers :=
        [⟨"ended", .processExited, none, [.shutdown none (.literal "ended")]⟩,
          ⟨"stop", .shutdownEvent, none, [.declareArgument none (.literal "clean") none none]⟩] }
  maxDispatches := 2
  executed := 0

/-- The end of a process makes two events, which the bound just allows.  The answer is the
failure of the handler of the second one, and it stays so with a higher bound. -/
theorem raised_bound_same_exactBound :
    exactBound.maxDispatches ≤ 5 ∧
      ((exactBound.call (.deliver (.processExited "talker" none none))).2 matches
        some (.action _)) ∧
      (exactBound.withBound 5).call (.deliver (.processExited "talker" none none)) =
        ((exactBound.call (.deliver (.processExited "talker" none none))).1.withBound 5,
          (exactBound.call (.deliver (.processExited "talker" none none))).2) := by
  have hfails : ((exactBound.call (.deliver (.processExited "talker" none none))).2 matches
      some (.action _)) := by cbv
  refine ⟨by decide, hfails, raised_bound_same (by decide) _ ?_⟩
  intro limit hlimit
  rw [hlimit] at hfails
  cases hfails

end LaunchPlan
