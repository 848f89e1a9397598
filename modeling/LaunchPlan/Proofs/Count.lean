import LaunchPlan.Proofs.Current
import LaunchPlan.Proofs.Precedence

/-! # The count of executed actions

A service counts the actions that it visits, but it does so in portions.  A portion is a turn:
the visit of an action of a description with all that it yields, or the run of a handler.  Within
a turn the loops hand the count on, and the service adds it once the turn is completed.  When an
action fails its turn counts for nothing, and the turns before it count in full.

`Turn.length_visits` says that a turn answers with the number of its visits, and `Tallied` follows
the count from turn to turn, through handlers, drains and inclusions.  No path loses a portion or
adds one twice, whichever loop ends early (`executed_exact`).
-/
namespace LaunchPlan

/-! ## Turns -/

/-- **A turn of a launch**, which counts as a whole: an action of a description is visited, or a
handler runs for an event. -/
inductive Turn where
  | entity (c : Context) (a : Action)
  | handler (e : Event) (r : HandlerRun)

namespace Turn

/-- All actions visited in a turn, those that groups yield included. -/
def visits : Turn → List Visit
  | entity c a => c.trail [a]
  | handler e r => (r.roots e).flatMap fun v => v.context.trail [v.action]

/-- What the loops answer to the service. -/
def answer : Turn → Except Failure Nat
  | entity c a => (c.visitDepthFirst a).2
  | handler e r => (r.context.handle e r.handler).2

/-- No action fails in the turn. -/
def Completes (t : Turn) : Prop := ∃ n, t.answer = .ok n

/-- The visits that count: all of a turn that completes, and none of a turn in which an action
fails. -/
def counted (t : Turn) : List Visit :=
  match t.answer with
  | .ok _ => t.visits
  | .error _ => []

theorem counted_of_completes {t : Turn} (h : t.Completes) : t.counted = t.visits := by
  obtain ⟨n, hn⟩ := h
  rw [counted, hn]

theorem counted_of_error {t : Turn} {f : Failure} (h : t.answer = .error f) : t.counted = [] := by
  rw [counted, h]

/-- All visits of turns that complete count. -/
theorem flatMap_counted {ts : List Turn} (h : ∀ t ∈ ts, t.Completes) :
    ts.flatMap counted = ts.flatMap visits :=
  List.flatMap_congr fun t ht => counted_of_completes (h t ht)

end Turn

/-- The turns that a moment consists of. -/
def Moment.turns : Moment → List Turn
  | entity s a => [.entity s.context a]
  | dispatch s e => (s.afterTake.runsOf e).map (.handler e)
  | overrun .. => []

/-- The turns of a moment make all visits of the moment. -/
theorem Moment.visits_eq (m : Moment) : m.visits = m.turns.flatMap Turn.visits := by
  cases m with
  | entity s a =>
    rw [visits_entity, turns, List.flatMap_singleton]
    rfl
  | dispatch s e =>
    rw [visits, roots, turns, List.flatMap_map, List.flatMap_assoc]
    rfl
  | overrun => rfl

namespace Context

/-- A visit with all that it yields counts its visits. -/
theorem length_trail {c c' : Context} {a : Action} {n : Nat}
    (h : c.visitDepthFirst a = (c', .ok n)) : (c.trail [a]).length = n := by
  rw [visitDepthFirst_eq] at h
  rw [trail_eq]
  cases hf : (evaluate c a).failure with
  | none =>
    rw [hf] at h
    cases h
    rfl
  | some f =>
    rw [hf] at h
    cases h

/-- Visits one after the other count what each of them counts. -/
theorem length_roots {c c' : Context} {l : List Action} {n m : Nat}
    (h : c.visitEach n l = (c', .ok m)) :
    n + ((c.roots l).flatMap fun v => v.context.trail [v.action]).length = m := by
  induction l generalizing c n with
  | nil =>
    cases h
    rfl
  | cons a rest ih =>
    rw [visitEach] at h
    rw [roots]
    rcases hv : c.visitDepthFirst a with ⟨d, f | k⟩ <;> rw [hv] at h
    · cases h
    · rw [List.flatMap_cons, List.length_append, length_trail hv, ← Nat.add_assoc]
      exact ih h

end Context

/-- **A turn answers with the number of its visits.** -/
theorem Turn.length_visits {t : Turn} {n : Nat} (h : t.answer = .ok n) : t.visits.length = n := by
  cases t with
  | entity c a => exact Context.length_trail (Prod.ext rfl h)
  | handler e r =>
    have hcount := Context.length_roots (Prod.ext rfl h :
      ({ r.context with current := some e } : Context).visitEach 0 r.handler.actions = (_, .ok n))
    rwa [Nat.zero_add] at hcount

/-! ## From turn to turn -/

/-- **Turns take the count from `n` to `m`**: each turn that completes adds its visits, and the
first that fails adds nothing and is the last. -/
inductive Tallied : Nat → List Turn → Nat → Option Failure → Prop
  | nil (n) : Tallied n [] n none
  | completed {n t k ts m r} : t.answer = .ok k → Tallied (n + k) ts m r →
      Tallied n (t :: ts) m r
  | failed {n t f} : t.answer = .error f → Tallied n [t] n (some f)

namespace Tallied
variable {n m k : Nat} {ts us : List Turn} {r r' : Option Failure}

theorem append (h : Tallied n ts m r) (hr : r = none) (h' : Tallied m us k r') :
    Tallied n (ts ++ us) k r' := by
  induction h with
  | nil => exact h'
  | completed ht _ ih => exact .completed ht (ih hr h')
  | failed => cases hr

/-- The count grows by the visits that count. -/
theorem count (h : Tallied n ts m r) : m = n + (ts.flatMap Turn.counted).length := by
  induction h with
  | nil => rfl
  | @completed _ t k _ _ _ ht _ ih =>
    rw [ih, List.flatMap_cons, List.length_append, Turn.counted_of_completes ⟨k, ht⟩,
      Turn.length_visits ht, Nat.add_assoc]
  | failed ht =>
    rw [List.flatMap_singleton, Turn.counted_of_error ht, List.length_nil, Nat.add_zero]

/-- Without a failure all turns complete. -/
theorem completes (h : Tallied n ts m r) (hr : r = none) : ∀ t ∈ ts, t.Completes := by
  induction h with
  | nil => exact fun _ ht => absurd ht List.not_mem_nil
  | @completed _ t k _ _ _ ht _ ih => exact List.forall_mem_cons.mpr ⟨⟨k, ht⟩, ih hr⟩
  | failed => cases hr

/-- A failure is that of the last turn, and those before it complete. -/
theorem exists_failed {f : Failure} (h : Tallied n ts m r) (hr : r = some f) :
    ∃ done last, ts = done ++ [last] ∧ (∀ t ∈ done, t.Completes) ∧ last.answer = .error f := by
  induction h with
  | nil => cases hr
  | @completed _ t k _ _ _ ht _ ih =>
    obtain ⟨done, last, hts, hdone, hlast⟩ := ih hr
    exact ⟨t :: done, last, by rw [hts, List.cons_append],
      List.forall_mem_cons.mpr ⟨⟨k, ht⟩, hdone⟩, hlast⟩
  | @failed _ t _ ht =>
    cases hr
    exact ⟨[], t, rfl, fun _ hu => absurd hu List.not_mem_nil, ht⟩

end Tallied

/-- The failed action that an error reports. -/
def ServiceError.failure? : ServiceError → Option Failure
  | action f => some f
  | dispatchLimit _ => none

namespace Service

theorem executed_acknowledge (s : Service) (e : Event) :
    (s.acknowledge e).1.executed = s.executed := by
  rcases s.acknowledge_cases e with ⟨_, _, -, -, h⟩ | ⟨_, _, -, -, h⟩ | ⟨-, h⟩ <;> rw [h] <;> rfl

/-- Handlers are counted one by one. -/
theorem tallied_handleAll (e : Event) (s : Service) (hs : List Handler) :
    Tallied s.executed ((s.context.handlerRuns e hs).map (.handler e))
      (handleAll e s hs).1.executed
      ((errorOf (handleAll e s hs).2).bind ServiceError.failure?) := by
  induction hs generalizing s with
  | nil => exact .nil _
  | cons h rest ih =>
    rw [handleAll, Context.handlerRuns]
    rcases hh : s.context.handle e h with ⟨c, f | n⟩
    · have hturn : (Turn.handler e ⟨s.context, h⟩).answer = .error f := congrArg Prod.snd hh
      exact .failed hturn
    · have hturn : (Turn.handler e ⟨s.context, h⟩).answer = .ok n := congrArg Prod.snd hh
      exact .completed hturn (ih { s with context := c, executed := s.executed + n })

/-- A dispatch counts the handlers that run. -/
theorem tallied_dispatch (s : Service) (e : Event) :
    Tallied s.executed (Moment.dispatch s e).turns (s.afterTake.dispatch e).1.executed
      ((errorOf (s.afterTake.dispatch e).2).bind ServiceError.failure?) := by
  have hexecuted : (s.afterTake.acknowledge e).1.executed = s.executed :=
    s.afterTake.executed_acknowledge e
  rw [Moment.turns, runsOf, dispatch]
  rcases hack : s.afterTake.acknowledge e with ⟨u, _ | _⟩ <;> rw [hack] at hexecuted <;>
    rw [← hexecuted]
  · exact .nil _
  · dsimp only
    cases hh : u.context.handlersFor e with
    | nil => exact .nil _
    | cons h rest => exact tallied_handleAll e u (h :: rest)

/-- Behind a visit that failed nothing is added. -/
theorem executed_afterVisit (s : Service) (a : Action) : (s.afterVisit a).executed =
    s.executed + match (s.context.visitDepthFirst a).2 with
      | .ok n => n
      | .error _ => 0 := by
  unfold afterVisit
  rcases s.context.visitDepthFirst a with ⟨c, f | n⟩ <;> rfl

/-- A drain counts the handlers of all dispatches; an event beyond the bound counts for
nothing. -/
theorem Drains.tallied {b : Nat} {s t : Service} {ms : List Moment} {r : Except ServiceError Unit}
    (h : Drains b s ms t r) : Tallied s.executed (ms.flatMap Moment.turns) t.executed
      ((errorOf r).bind ServiceError.failure?) := by
  induction h with
  | empty => exact .nil _
  | overrun => exact .nil _
  | @failed _ s e _ _ _ herr =>
    have hdispatch := s.tallied_dispatch e
    rw [herr] at hdispatch
    rwa [List.flatMap_singleton]
  | @next _ s e _ _ _ _ _ hok _ ih =>
    have hdispatch := s.tallied_dispatch e
    rw [hok] at hdispatch
    exact hdispatch.append rfl ih

/-- An inclusion counts its entities and, after each, the handlers of its drain. -/
theorem Includes.tallied {s t : Service} {l : List Action} {ms : List Moment}
    {r : Except ServiceError Unit} (h : Includes s l ms t r) :
    Tallied s.executed (ms.flatMap Moment.turns) t.executed
      ((errorOf r).bind ServiceError.failure?) := by
  induction h with
  | done => exact .nil _
  | leftOut => exact .nil _
  | @failed s a _ f _ hv =>
    rw [executed_afterVisit, hv]
    exact .failed hv
  | @stuck s a _ n _ _ _ _ hv hd =>
    have hdrain := hd.tallied
    rw [executed_afterVisit, hv] at hdrain
    exact .completed (t := .entity s.context a) hv hdrain
  | @next s a _ n ms _ ns _ _ _ hv hd _ ih =>
    have hdrain := hd.tallied
    rw [executed_afterVisit, hv] at hdrain
    rw [List.flatMap_cons, List.flatMap_append]
    exact .completed (t := .entity s.context a) hv (hdrain.append rfl ih)

/-- The turns of a call, in order. -/
def turns (s : Service) (k : Call) : List Turn := (s.moments k).flatMap Moment.turns

/-- All actions visited in a call, in order. -/
def visits (s : Service) (k : Call) : List Visit := (s.moments k).flatMap Moment.visits

theorem visits_eq (s : Service) (k : Call) : s.visits k = (s.turns k).flatMap Turn.visits := by
  rw [visits, turns, List.flatMap_assoc]
  congr 1
  exact funext Moment.visits_eq

/-- **A call is counted turn by turn.** -/
theorem tallied_call (s : Service) (k : Call) :
    Tallied s.executed (s.turns k) (s.call k).1.executed
      ((s.call k).2.bind ServiceError.failure?) := by
  rcases s.call_cases k with ⟨e, t, r, -, hd, hcall⟩ | ⟨s₁, t, r, hs₁, hin, herr, ht⟩
  · rw [hcall]
    exact hd.tallied
  · -- the records before and behind an inclusion are not counted
    have hstart : s₁.executed = s.executed := by
      rcases hs₁ with rfl | ⟨n, rfl⟩ <;> rfl
    have hend : (s.call k).1.executed = t.executed := by
      rcases ht with ht | ⟨x, -, ht⟩ <;> rw [ht]
      rfl
    rw [herr, hend, ← hstart]
    exact hin.tallied

/-- The visits of a call that count. -/
def counted (s : Service) (k : Call) : List Visit := (s.turns k).flatMap Turn.counted

/-- The visits that count in calls made one after the other. -/
def countedIn (s : Service) : List Call → List Visit
  | [] => []
  | k :: rest => s.counted k ++ (s.call k).1.countedIn rest

end Service

/-! ## Calls -/

/-- **A call is counted exactly.**

* `count`: whatever it answers, the call adds the visits that count, each once.
* `complete`: if it succeeds, or fails at the bound, all its turns complete and all its visits
  count.
* `failed`: if an action fails, it does so in the last turn.  The turns before complete, and their
  visits count; of the last turn none does. -/
structure CountedExactly (s : Service) (k : Service.Call) : Prop where
  count : (s.call k).1.executed = s.executed + (s.counted k).length
  complete : (∀ f, (s.call k).2 ≠ some (.action f)) →
    (∀ t ∈ s.turns k, t.Completes) ∧ s.counted k = s.visits k
  failed : ∀ f, (s.call k).2 = some (.action f) →
    ∃ done last, s.turns k = done ++ [last] ∧ (∀ t ∈ done, t.Completes) ∧
      last.answer = .error f ∧ s.counted k = done.flatMap Turn.visits

theorem countedExactly (s : Service) (k : Service.Call) : CountedExactly s k where
  count := (s.tallied_call k).count
  complete := by
    intro h
    have hnone : (s.call k).2.bind ServiceError.failure? = none := by
      rcases hr : (s.call k).2 with _ | ⟨f | _⟩
      · rfl
      · exact absurd hr (h f)
      · rfl
    have hcompletes := (s.tallied_call k).completes hnone
    rw [s.visits_eq]
    exact ⟨hcompletes, Turn.flatMap_counted hcompletes⟩
  failed := by
    intro f h
    have hsome : (s.call k).2.bind ServiceError.failure? = some f := by
      rw [h]
      rfl
    obtain ⟨done, last, hturns, hdone, hlast⟩ := (s.tallied_call k).exists_failed hsome
    refine ⟨done, last, hturns, hdone, hlast, ?_⟩
    rw [Service.counted, hturns, List.flatMap_append, List.flatMap_singleton,
      Turn.counted_of_error hlast, List.append_nil]
    exact Turn.flatMap_counted hdone

/-- **The count of executed actions is exact**: through calls made one after the other, whatever
they answer, it grows by the visits that count, and for the next call these are as
`CountedExactly` says. -/
theorem executed_exact (s : Service) (ks : List Service.Call) :
    (s.calls ks).executed = s.executed + (s.countedIn ks).length ∧
      ∀ k, CountedExactly (s.calls ks) k := by
  refine ⟨?_, countedExactly _⟩
  induction ks generalizing s with
  | nil => rfl
  | cons k rest ih =>
    show ((s.call k).1.calls rest).executed = _
    rw [ih, (countedExactly s k).count, Service.countedIn, List.length_append, Nat.add_assoc]

/-- A scoped group of one action counts four visits, those of its marks included.  Of the second
group, in which an action fails, nothing is counted. -/
example :
    let s := Service.ofConfig (.ofArguments .empty) .empty
    let d : Description := ⟨[.group none true [.log none (.literal "inside")],
      .group none false [.popConfigurations]]⟩
    (s.includeDescription d).1.executed = 4 := by
  cbv

end LaunchPlan
