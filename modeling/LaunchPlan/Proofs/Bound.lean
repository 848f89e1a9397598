import LaunchPlan.Proofs.Dispatch

/-! # The bound on dispatches

What a drain would do if nothing stopped it is `Service.Dispatches`: events are taken off the
queue, those that handlers put behind included, and none of the dispatches fails.  Against
this the bound is exact.  A drain ends in one of three ways (`Service.Ends`), and it ends so
whenever it can (`drainWithin_eq_iff`):

* the queue is empty after no more events than the bound allows;
* as many events as the bound allows were dispatched and there is one more, which is taken off
  the queue while nothing else changes;
* an event within the bound meets a handler that fails.

The bound is one for each drain.  A call drains the queue after each action of its description,
and what earlier drains took does not count (`Moment.countFrom`).  `drain_bound` collects
the laws.
-/
namespace LaunchPlan

namespace Service

/-! ## The bound is only read -/

/-- The same service with another bound. -/
def withBound (s : Service) (m : Nat) : Service := { s with maxDispatches := m }

@[simp] theorem withBound_self (s : Service) : s.withBound s.maxDispatches = s := rfl

@[simp] theorem context_withBound (s : Service) (m : Nat) :
    (s.withBound m).context = s.context := rfl

theorem afterTake_withBound (s : Service) (m : Nat) :
    (s.withBound m).afterTake = s.afterTake.withBound m := rfl

theorem handleAll_withBound (s : Service) (m : Nat) (e : Event) (hs : List Handler) :
    handleAll e (s.withBound m) hs = ((handleAll e s hs).1.withBound m, (handleAll e s hs).2) := by
  induction hs generalizing s with
  | nil => rfl
  | cons h rest ih =>
    rw [handleAll, handleAll, context_withBound]
    rcases s.context.handle e h with ⟨c, f | n⟩
    · rfl
    · exact ih { s with context := c, executed := s.executed + n }

theorem acknowledge_withBound (s : Service) (m : Nat) (e : Event) :
    (s.withBound m).acknowledge e = ((s.acknowledge e).1.withBound m, (s.acknowledge e).2) := by
  cases e with
  | shutdown reason signal =>
    rw [acknowledge, acknowledge, context_withBound]
    split <;> rfl
  | processStarted | processExited => rfl

theorem dispatch_withBound (s : Service) (m : Nat) (e : Event) :
    (s.withBound m).dispatch e = ((s.dispatch e).1.withBound m, (s.dispatch e).2) := by
  rw [dispatch, dispatch, acknowledge_withBound]
  rcases s.acknowledge e with ⟨u, _ | _⟩
  · rfl
  · simp only [context_withBound]
    cases u.context.handlersFor e with
    | nil => rfl
    | cons h rest => exact handleAll_withBound u m e (h :: rest)

@[simp] theorem maxDispatches_dispatch (s : Service) (e : Event) :
    (s.dispatch e).1.maxDispatches = s.maxDispatches := by
  have h := s.dispatch_withBound s.maxDispatches e
  rw [withBound_self] at h
  exact congrArg (fun p => p.1.maxDispatches) h

@[simp] theorem maxDispatches_afterVisit (s : Service) (a : Action) :
    (s.afterVisit a).maxDispatches = s.maxDispatches := by
  unfold afterVisit
  rcases s.context.visitDepthFirst a with ⟨c, _ | _⟩ <;> rfl

/-! ## Without a bound -/

/-- **Events are dispatched one after the other**, each off the head of the queue, and no
dispatch fails.  The queue need not be empty at the end. -/
inductive Dispatches : Service → List Event → Service → Prop
  | nil (s) : Dispatches s [] s
  | cons {s e rest es t} : s.context.pending = e :: rest → (s.afterTake.dispatch e).2 = .ok () →
      Dispatches (s.afterTake.dispatch e).1 es t → Dispatches s (e :: es) t

namespace Dispatches
variable {s t u : Service} {es : List Event}

theorem maxDispatches (h : s.Dispatches es t) : t.maxDispatches = s.maxDispatches := by
  induction h with
  | nil => rfl
  | cons _ _ _ ih => exact ih.trans (maxDispatches_dispatch _ _)

theorem withBound (h : s.Dispatches es t) (m : Nat) :
    (s.withBound m).Dispatches es (t.withBound m) := by
  induction h with
  | nil => exact .nil _
  | @cons s e rest _ _ hp hok _ ih =>
    have hd := s.afterTake.dispatch_withBound m e
    rw [← afterTake_withBound] at hd
    refine .cons hp (by rw [hd]; exact hok) ?_
    rw [hd]
    exact ih

theorem path (h : s.Dispatches es t) :
    ∃ ms, Path s ms t ∧ ms.filterMap Moment.taken? = es := by
  induction h with
  | nil s => exact ⟨[], .nil s, rfl⟩
  | @cons s e rest _ _ hp _ _ ih =>
    obtain ⟨ms, hpath, rfl⟩ := ih
    exact ⟨.dispatch s e :: ms, .dispatch hp hpath, rfl⟩

/-- The events dispatched, then those waiting, are those that waited at the beginning, then
those emitted meanwhile. -/
theorem queue (h : s.Dispatches es t) :
    ∃ records, t.context.log.toList = s.context.log.toList ++ records ∧
      es ++ t.context.pending = s.context.pending ++ records.filterMap Record.emission? := by
  obtain ⟨ms, hpath, rfl⟩ := h.path
  exact hpath.grows

/-- The service in between, after the first events. -/
theorem split {es' : List Event} (h : s.Dispatches (es ++ es') t) :
    ∃ u, s.Dispatches es u ∧ u.Dispatches es' t := by
  induction es generalizing s with
  | nil => exact ⟨s, .nil s, h⟩
  | cons e es ih =>
    cases h with
    | cons hp hok h =>
      obtain ⟨u, hfirst, hrest⟩ := ih h
      exact ⟨u, .cons hp hok hfirst, hrest⟩

theorem exists_pending {e : Event} (h : s.Dispatches (e :: es) t) :
    ∃ rest, s.context.pending = e :: rest := by
  cases h with
  | cons hp => exact ⟨_, hp⟩

end Dispatches

/-! ## How a drain ends -/

theorem dispatch_error {s : Service} {e : Event} {err : ServiceError}
    (h : (s.dispatch e).2 = .error err) : ∃ f, err = .action f := by
  rcases s.dispatch_cases e with ⟨_, _, -, -, hd, -⟩ | ⟨_, _, r, -, -, -, hr⟩
  · rw [hd] at h
    cases h
  · rw [h] at hr
    cases r with
    | none => cases hr
    | some f => exact ⟨f, Except.error.inj hr⟩

/-- **How a drain within a budget ends**, with the events that it takes. -/
inductive Ends (b : Nat) (s : Service) : List Event → Service → Except ServiceError Unit → Prop
  /-- The queue is empty in time. -/
  | empty {es t} : s.Dispatches es t → es.length ≤ b → t.context.pending = [] →
      Ends b s es t (.ok ())
  /-- The budget is spent and another event is taken, with which nothing is done. -/
  | overrun {es u e rest} : s.Dispatches es u → es.length = b → u.context.pending = e :: rest →
      Ends b s (es ++ [e]) u.afterTake (.error (.dispatchLimit s.maxDispatches))
  /-- A handler fails. -/
  | failed {es u e rest f} : s.Dispatches es u → es.length < b → u.context.pending = e :: rest →
      (u.afterTake.dispatch e).2 = .error (.action f) →
      Ends b s (es ++ [e]) (u.afterTake.dispatch e).1 (.error (.action f))

theorem Ends.cons {b : Nat} {s t : Service} {e : Event} {rest es : List Event}
    {r : Except ServiceError Unit} (hp : s.context.pending = e :: rest)
    (hok : (s.afterTake.dispatch e).2 = .ok ()) (h : Ends b (s.afterTake.dispatch e).1 es t r) :
    Ends (b + 1) s (e :: es) t r := by
  cases h with
  | empty hd hle hempty => exact .empty (.cons hp hok hd) (by simpa using hle) hempty
  | overrun hd hlen hp' =>
    rw [maxDispatches_dispatch]
    exact .overrun (.cons hp hok hd) (by simpa using hlen) hp'
  | failed hd hlt hp' hfail => exact .failed (.cons hp hok hd) (by simpa using hlt) hp' hfail

theorem Drains.ends_taken {b : Nat} {s t : Service} {ms : List Moment}
    {r : Except ServiceError Unit} (h : Drains b s ms t r) :
    Ends b s (ms.filterMap Moment.taken?) t r := by
  induction h with
  | @empty b s hp => exact .empty (.nil s) (Nat.zero_le b) hp
  | @overrun s e rest hp => exact .overrun (.nil s) rfl hp
  | @failed b s e rest err hp herr =>
    obtain ⟨f, rfl⟩ := dispatch_error herr
    exact .failed (.nil s) (Nat.succ_pos b) hp herr
  | next hp hok _ ih => exact .cons hp hok ih

theorem takePending?_of_pending {s : Service} {e : Event} {rest : List Event}
    (h : s.context.pending = e :: rest) :
    s.context.takePending? = some (e, s.afterTake.context) := by
  rw [Context.takePending?, h, afterTake, h]
  rfl

theorem drainWithin_of_empty {s : Service} (h : s.context.pending = []) (b : Nat) :
    s.drainWithin b = (s, .ok ()) := by
  unfold drainWithin Context.takePending?
  rw [h]

theorem drainWithin_zero {s : Service} {e : Event} {rest : List Event}
    (h : s.context.pending = e :: rest) :
    s.drainWithin 0 = (s.afterTake, .error (.dispatchLimit s.maxDispatches)) := by
  rw [drainWithin, takePending?_of_pending h]
  rfl

theorem drainWithin_succ {s : Service} {e : Event} {rest : List Event}
    (h : s.context.pending = e :: rest) (b : Nat) :
    s.drainWithin (b + 1) = match s.afterTake.dispatch e with
      | (t, .ok ()) => t.drainWithin b
      | (t, .error err) => (t, .error err) := by
  rw [drainWithin, takePending?_of_pending h]
  rfl

/-- What was dispatched is taken off the budget. -/
theorem Dispatches.drainWithin {s t : Service} {es : List Event} (h : s.Dispatches es t)
    (b : Nat) : s.drainWithin (es.length + b) = t.drainWithin b := by
  induction h with
  | nil => rw [List.length_nil, Nat.zero_add]
  | @cons s e rest es t hp hok _ ih =>
    rw [List.length_cons, Nat.add_right_comm, drainWithin_succ hp]
    rcases hd : s.afterTake.dispatch e with ⟨u, _ | ⟨⟩⟩
    · rw [hd] at hok
      cases hok
    · rw [hd] at ih
      exact ih

theorem Ends.drainWithin {b : Nat} {s t : Service} {es : List Event}
    {r : Except ServiceError Unit} (h : Ends b s es t r) : s.drainWithin b = (t, r) := by
  cases h with
  | empty hd hle hempty =>
    obtain ⟨k, rfl⟩ := Nat.exists_eq_add_of_le hle
    rw [hd.drainWithin, drainWithin_of_empty hempty]
  | @overrun es u _ _ hd hlen hp =>
    subst hlen
    have hdrain := hd.drainWithin 0
    rw [Nat.add_zero] at hdrain
    rw [hdrain, drainWithin_zero hp, hd.maxDispatches]
  | @failed es u e _ f hd hlt hp hfail =>
    obtain ⟨k, rfl⟩ := Nat.exists_eq_add_of_lt hlt
    rw [Nat.add_assoc, hd.drainWithin, drainWithin_succ hp]
    rcases hu : u.afterTake.dispatch e with ⟨v, err | ⟨⟩⟩
    · rw [hu] at hfail
      rw [← hfail]
    · rw [hu] at hfail
      cases hfail

/-- **A drain ends as it can**, and in no other way. -/
theorem drainWithin_eq_iff {b : Nat} {s t : Service} {r : Except ServiceError Unit} :
    s.drainWithin b = (t, r) ↔ ∃ es, Ends b s es t r := by
  constructor
  · intro h
    have hdrains := drains_drainWithin b s
    rw [h] at hdrains
    exact ⟨_, hdrains.ends_taken⟩
  · rintro ⟨es, h⟩
    exact h.drainWithin

/-- The events that a drain takes. -/
def taken (s : Service) : List Event := (s.drainMoments s.maxDispatches).filterMap Moment.taken?

theorem ends_drain (s : Service) : Ends s.maxDispatches s s.taken s.drain.1 s.drain.2 :=
  (drains_drainWithin s.maxDispatches s).ends_taken

theorem Ends.length_le {b : Nat} {s t : Service} {es : List Event}
    {r : Except ServiceError Unit} (h : Ends b s es t r) : es.length ≤ b + 1 := by
  cases h with
  | empty _ hle _ => omega
  | overrun _ hlen _ =>
    rw [List.length_append, List.length_singleton]
    omega
  | failed _ hlt _ _ =>
    rw [List.length_append, List.length_singleton]
    omega

/-- The bound is hit if and only if one event more is taken than it allows. -/
theorem Ends.limit_iff {b : Nat} {s t : Service} {es : List Event} {r : Except ServiceError Unit}
    (h : Ends b s es t r) (limit : Nat) :
    r = .error (.dispatchLimit limit) ↔ limit = s.maxDispatches ∧ es.length = b + 1 := by
  cases h with
  | empty _ hle _ =>
    refine ⟨fun h => (nomatch h), ?_⟩
    rintro ⟨-, hlen⟩
    omega
  | overrun _ hlen _ =>
    rw [List.length_append, List.length_singleton, hlen]
    constructor
    · intro h
      cases h
      exact ⟨rfl, rfl⟩
    · rintro ⟨rfl, -⟩
      rfl
  | failed _ hlt _ _ =>
    refine ⟨fun h => (nomatch h), ?_⟩
    rintro ⟨-, hlen⟩
    rw [List.length_append, List.length_singleton] at hlen
    omega

/-- More events than the bound allows make the drain fail at the bound. -/
theorem Dispatches.exceeds {s t : Service} {es : List Event} (h : s.Dispatches es t)
    (hlt : s.maxDispatches < es.length) :
    s.drain.2 = .error (.dispatchLimit s.maxDispatches) := by
  rw [← List.take_append_drop s.maxDispatches es] at h
  obtain ⟨u, hfirst, hrest⟩ := h.split
  -- another event waits when the bound is reached
  cases hdrop : es.drop s.maxDispatches with
  | nil =>
    rw [List.drop_eq_nil_iff] at hdrop
    omega
  | cons e rest =>
    rw [hdrop] at hrest
    obtain ⟨waiting, hp⟩ := hrest.exists_pending
    have hlen : (es.take s.maxDispatches).length = s.maxDispatches := by
      rw [List.length_take]
      omega
    have hend := Ends.drainWithin (.overrun hfirst hlen hp)
    rw [drain, hend]

end Service

/-! ## The count of a call -/

namespace Moment

/-- Counts on from `n` through the moments of a call: an event taken is counted, and the visit
of an action of a description starts the count anew, since the drain behind it is another one. -/
def countFrom (n : Nat) (ms : List Moment) : Nat :=
  ms.foldl (fun n m => if m.taken?.isSome then n + 1 else 0) n

theorem countFrom_entity (n : Nat) (s : Service) (a : Action) (ms : List Moment) :
    countFrom n (.entity s a :: ms) = countFrom 0 ms := rfl

theorem countFrom_append (n : Nat) (ms ns : List Moment) :
    countFrom n (ms ++ ns) = countFrom (countFrom n ms) ns := List.foldl_append

theorem countFrom_of_taken {ms : List Moment} (h : ∀ m ∈ ms, m.taken?.isSome = true) (n : Nat) :
    countFrom n ms = n + ms.length := by
  induction ms generalizing n with
  | nil => rfl
  | cons m ms ih =>
    have hstep : countFrom n (m :: ms) = countFrom (n + 1) ms := by
      rw [countFrom, List.foldl_cons, h m List.mem_cons_self]
      rfl
    rw [hstep, ih fun x hx => h x (List.mem_cons_of_mem _ hx), List.length_cons]
    omega

/-- The count stays within `b` all the way. -/
def CountsWithin (b n : Nat) (ms : List Moment) : Prop :=
  ∀ before, before <+: ms → countFrom n before ≤ b

theorem countsWithin_nil {b n : Nat} (hn : n ≤ b) : CountsWithin b n [] := by
  intro before h
  rw [List.prefix_nil.mp h]
  exact hn

theorem countsWithin_entity {b n : Nat} {s : Service} {a : Action} {ms : List Moment}
    (hn : n ≤ b) (h : CountsWithin b 0 ms) : CountsWithin b n (.entity s a :: ms) := by
  intro before hbefore
  rcases List.prefix_cons_iff.mp hbefore with rfl | ⟨rest, rfl, hrest⟩
  · exact hn
  · rw [countFrom_entity]
    exact h rest hrest

theorem countsWithin_of_taken {b n : Nat} {ms : List Moment}
    (h : ∀ m ∈ ms, m.taken?.isSome = true) (hle : n + ms.length ≤ b) : CountsWithin b n ms := by
  intro before hbefore
  rw [countFrom_of_taken fun m hm => h m (hbefore.subset hm)]
  have := hbefore.length_le
  omega

theorem countsWithin_append {b n : Nat} {ms ns : List Moment} (h : CountsWithin b n ms)
    (h' : CountsWithin b (countFrom n ms) ns) : CountsWithin b n (ms ++ ns) := by
  rintro before ⟨after, hafter⟩
  rcases List.append_eq_append_iff.mp hafter with ⟨more, hms, -⟩ | ⟨more, rfl, hns⟩
  · exact h before ⟨more, hms.symm⟩
  · rw [countFrom_append]
    exact h' more ⟨after, hns.symm⟩

end Moment

namespace Service

/-- All that happens in a drain is that events are taken. -/
theorem Drains.taken_isSome {b : Nat} {s t : Service} {ms : List Moment}
    {r : Except ServiceError Unit} (h : Drains b s ms t r) :
    ∀ m ∈ ms, m.taken?.isSome = true := by
  intro m hm
  obtain ⟨u, e, rest, -, rfl | ⟨rfl, -⟩⟩ := h.exists_head hm <;> rfl

theorem Drains.length_taken {b : Nat} {s t : Service} {ms : List Moment}
    {r : Except ServiceError Unit} (h : Drains b s ms t r) :
    (ms.filterMap Moment.taken?).length = ms.length :=
  List.filterMap_length_eq_length.mpr h.taken_isSome

theorem Drains.length_le {b : Nat} {s t : Service} {ms : List Moment}
    {r : Except ServiceError Unit} (h : Drains b s ms t r) : ms.length ≤ b + 1 := by
  have hle := h.ends_taken.length_le
  rwa [h.length_taken] at hle

theorem Drains.limit_iff {b : Nat} {s t : Service} {ms : List Moment}
    {r : Except ServiceError Unit} (h : Drains b s ms t r) (limit : Nat) :
    r = .error (.dispatchLimit limit) ↔ limit = s.maxDispatches ∧ ms.length = b + 1 := by
  have hlimit := h.ends_taken.limit_iff limit
  rwa [h.length_taken] at hlimit

theorem Drains.countFrom_zero {b : Nat} {s t : Service} {ms : List Moment}
    {r : Except ServiceError Unit} (h : Drains b s ms t r) :
    Moment.countFrom 0 ms = ms.length := by
  rw [Moment.countFrom_of_taken h.taken_isSome, Nat.zero_add]

theorem Drains.countsWithin {b : Nat} {s t : Service} {ms : List Moment}
    {r : Except ServiceError Unit} (h : Drains b s ms t r) :
    Moment.CountsWithin (b + 1) 0 ms := by
  refine Moment.countsWithin_of_taken h.taken_isSome ?_
  have hle := h.length_le
  omega

/-- A drain that succeeds stays within the bound. -/
theorem Drains.length_le_of_ok {b : Nat} {s t : Service} {ms : List Moment}
    (h : Drains b s ms t (.ok ())) : ms.length ≤ b := by
  have hlimit := (h.limit_iff s.maxDispatches).not.mp fun h => nomatch h
  have hle := h.length_le
  omega

theorem Ends.maxDispatches {b : Nat} {s t : Service} {es : List Event}
    {r : Except ServiceError Unit} (h : Ends b s es t r) : t.maxDispatches = s.maxDispatches := by
  cases h with
  | empty hd => exact hd.maxDispatches
  | overrun hd => exact hd.maxDispatches
  | failed hd => exact (maxDispatches_dispatch _ _).trans hd.maxDispatches

namespace Includes
variable {s t : Service} {l : List Action} {ms : List Moment} {r : Except ServiceError Unit}

/-- Whatever the count at the beginning, an inclusion never counts more than one event beyond
the bound. -/
theorem countsWithin (h : Includes s l ms t r) {n : Nat} (hn : n ≤ s.maxDispatches) :
    Moment.CountsWithin (s.maxDispatches + 1) n ms := by
  induction h generalizing n with
  | done | leftOut => exact Moment.countsWithin_nil (Nat.le_succ_of_le hn)
  | failed =>
    exact Moment.countsWithin_entity (Nat.le_succ_of_le hn)
      (Moment.countsWithin_nil (Nat.zero_le _))
  | stuck _ _ hd => exact Moment.countsWithin_entity (Nat.le_succ_of_le hn) hd.countsWithin
  | @next s a _ _ _ t _ _ _ _ _ hd _ ih =>
    have hmax : t.maxDispatches = s.maxDispatches :=
      hd.ends_taken.maxDispatches.trans (maxDispatches_afterVisit s a)
    have hle := hd.length_le_of_ok
    rw [← hmax, ← hd.countFrom_zero] at hle
    refine Moment.countsWithin_entity (Nat.le_succ_of_le hn) ?_
    refine Moment.countsWithin_append hd.countsWithin ?_
    rw [← hmax]
    exact ih hle

/-- An inclusion fails at the bound if and only if it counts one event beyond it. -/
theorem limit_iff (h : Includes s l ms t r) {n : Nat} (hn : n ≤ s.maxDispatches) (limit : Nat) :
    r = .error (.dispatchLimit limit) ↔
      limit = s.maxDispatches ∧ Moment.countFrom n ms = s.maxDispatches + 1 := by
  induction h generalizing n with
  | done | leftOut =>
    refine ⟨fun h => (nomatch h), ?_⟩
    rintro ⟨-, hcount⟩
    have hzero : Moment.countFrom n [] = n := rfl
    omega
  | failed =>
    refine ⟨fun h => (nomatch h), ?_⟩
    rintro ⟨-, hcount⟩
    cases hcount
  | @stuck s a _ _ _ _ _ _ _ hd =>
    rw [Moment.countFrom_entity, hd.countFrom_zero, hd.limit_iff, maxDispatches_afterVisit]
  | @next s a _ _ _ t _ _ _ _ _ hd _ ih =>
    have hmax : t.maxDispatches = s.maxDispatches :=
      hd.ends_taken.maxDispatches.trans (maxDispatches_afterVisit s a)
    have hle := hd.length_le_of_ok
    rw [← hmax, ← hd.countFrom_zero] at hle
    rw [Moment.countFrom_entity, Moment.countFrom_append, ← hmax]
    exact ih hle

end Includes
end Service

/-- **The bound on one drain.**

* `queue`, `length_le`: the events taken come off the queue in order, and they are at most one
  more than the bound.
* `limit_iff`: the drain fails at the bound if and only if it takes that one more.
* `overrun`: it does so after as many dispatches as the bound allows, and nothing else changes
  with it: no handler runs and no shutdown is marked.
* `complete`, `exceeded`: events that are dispatched without a failure until the queue is empty
  make the drain succeed if the bound allows for so many, and fail at the bound if not.  Events
  are counted whether or not anything is done with them (`counted`).
* `succeeded`: no drain succeeds in another way. -/
structure BoundedDrain (s : Service) : Prop where
  queue : ∃ records, s.drain.1.context.log.toList = s.context.log.toList ++ records ∧
    s.taken ++ s.drain.1.context.pending =
      s.context.pending ++ records.filterMap Record.emission?
  length_le : s.taken.length ≤ s.maxDispatches + 1
  limit_iff : ∀ limit, s.drain.2 = .error (.dispatchLimit limit) ↔
    limit = s.maxDispatches ∧ s.taken.length = s.maxDispatches + 1
  overrun : s.taken.length = s.maxDispatches + 1 → ∃ es u e, s.Dispatches es u ∧
    s.taken = es ++ [e] ∧ u.context.pending = e :: s.drain.1.context.pending ∧
    s.drain.1 = { u with context := { u.context with pending := s.drain.1.context.pending } }
  complete : ∀ es t, s.Dispatches es t → t.context.pending = [] →
    es.length ≤ s.maxDispatches → s.drain = (t, .ok ())
  exceeded : ∀ es t, s.Dispatches es t → s.maxDispatches < es.length →
    s.drain.2 = .error (.dispatchLimit s.maxDispatches)
  counted : ∀ es t, s.Dispatches es t →
    ∃ records, t.context.log.toList = s.context.log.toList ++ records ∧
      es ++ t.context.pending = s.context.pending ++ records.filterMap Record.emission?
  succeeded : s.drain.2 = .ok () → s.Dispatches s.taken s.drain.1 ∧
    s.drain.1.context.pending = [] ∧ s.taken.length ≤ s.maxDispatches

/-- **The bound on the drains of one call**: each counts from zero. -/
structure BoundedCall (s : Service) (k : Service.Call) : Prop where
  count_le : ∀ before, before <+: s.moments k →
    Moment.countFrom 0 before ≤ s.maxDispatches + 1
  limit_iff : ∀ limit, (s.call k).2 = some (.dispatchLimit limit) ↔
    limit = s.maxDispatches ∧ Moment.countFrom 0 (s.moments k) = s.maxDispatches + 1

theorem boundedDrain (s : Service) : BoundedDrain s := by
  have hend := s.ends_drain
  refine
    { queue := (Service.drains_drainWithin s.maxDispatches s).path.grows
      length_le := hend.length_le
      limit_iff := hend.limit_iff
      overrun := ?_
      complete := fun es t h hempty hle => Service.Ends.drainWithin (.empty h hle hempty)
      exceeded := fun es t h hlt => h.exceeds hlt
      counted := fun es t h => h.queue
      succeeded := ?_ }
  · intro hlen
    have hlimit := (hend.limit_iff s.maxDispatches).mpr ⟨rfl, hlen⟩
    generalize s.taken = taken, s.drain.1 = t, s.drain.2 = r at hend hlimit
    subst hlimit
    cases hend with
    | overrun hd _ hp =>
      refine ⟨_, _, _, hd, rfl, ?_, rfl⟩
      rw [Service.pending_afterTake hp]
      exact hp
  · intro hok
    generalize s.taken = taken, s.drain.1 = t, s.drain.2 = r at hend hok
    subst hok
    cases hend with
    | empty hd hle hempty => exact ⟨hd, hempty, hle⟩

theorem boundedCall (s : Service) (k : Service.Call) : BoundedCall s k := by
  rcases s.call_cases k with ⟨e, t, r, -, hd, hcall⟩ | ⟨s₁, t, r, hs₁, hin, hcall, -⟩
  · refine ⟨hd.countsWithin, fun limit => ?_⟩
    rw [hcall, Service.errorOf_eq_some_iff, hd.countFrom_zero]
    exact hd.limit_iff limit
  · have hmax : s₁.maxDispatches = s.maxDispatches := by
      rcases hs₁ with rfl | ⟨n, rfl⟩ <;> rfl
    have hcount := hin.countsWithin (Nat.zero_le _)
    have hlimit := hin.limit_iff (Nat.zero_le _)
    rw [hmax] at hcount hlimit
    refine ⟨hcount, fun limit => ?_⟩
    rw [hcall, Service.errorOf_eq_some_iff]
    exact hlimit limit

/-- **Every drain ends, and its bound is exact**, for any service and in any call. -/
theorem drain_bound : (∀ s, BoundedDrain s) ∧ ∀ s k, BoundedCall s k :=
  ⟨boundedDrain, boundedCall⟩

/-- The end of a process follows from its start: these are two events, the second emitted while
the first is handled, and a late request to shut down counts as a third. -/
example :
    let h : Handler := ⟨"h", .processStarted, none, [.emit none (.processExited "talker" none none),
      .shutdown none (.literal "again")]⟩
    let c := ((Context.ofEnvironment .empty).register h).markShutdown "done"
    let s : Service := ⟨c.emit (.processStarted "talker" 7), 3, 0⟩
    s.taken.length = 3 ∧ (s.drain.2 matches .ok ()) ∧ (s.withBound 2).taken.length = 3 ∧
      ((s.withBound 2).drain.2 matches .error (.dispatchLimit 2)) := by cbv

end LaunchPlan
