import LaunchPlan.Service
import LaunchPlan.Proofs.Evaluation

/-! # The history of a launch

A service call answers with the service at the end.  This module reads off what happened on
the way, as a list of moments: an action of a description is visited (`Moment.entity`), an
event is taken and dispatched (`Moment.dispatch`), or an event is taken beyond the bound
(`Moment.overrun`).  A moment holds the service that it found, so that `Moment.after`, the
handlers that ran (`Moment.runs`) and the actions they visited (`Moment.roots`) are all
determined by it.

The moments follow the recursion of the calls (`Service.drainMoments`,
`Service.includeMoments`), and `Path` says that they lead from the service before a call to the
service after it, with nothing but log records and emissions in between (`path_call`).  A law
about whole calls is then an induction on `Path`, and a law about one dispatch an induction on
`Carries`, which does the same for the visits that handlers make.
-/
namespace LaunchPlan

/-! ## Visits that follow each other -/

namespace Context

/-- The visits that `visitEach` starts with each action of a list; what they yield is not
listed. -/
def roots (c : Context) : List Action → List Visit
  | [] => []
  | a :: rest =>
    ⟨c, a⟩ :: match c.visitDepthFirst a with
      | (_, .error _) => []
      | (c', .ok _) => roots c' rest

end Context

/-- A run of a handler: the context when its turn came, and the handler. -/
structure HandlerRun where
  context : Context
  handler : Handler

/-- The visits of a run: those of the actions of the handler, while the event is at hand. -/
def HandlerRun.roots (e : Event) (r : HandlerRun) : List Visit :=
  { r.context with current := some e }.roots r.handler.actions

/-- The runs of some handlers, one after the other until one fails. -/
def Context.handlerRuns (e : Event) (c : Context) : List Handler → List HandlerRun
  | [] => []
  | h :: rest =>
    ⟨c, h⟩ :: match c.handle e h with
      | (_, .error _) => []
      | (c', .ok _) => handlerRuns e c' rest

/-- **Visits that carry out a list of actions**, from one context to another, in order and each
completely before the next.  The first failure ends them.  Between two visits only the event
at hand may be set. -/
inductive Carries : Context → List Action → List Visit → Context → Option Failure → Prop
  | nil (c) : Carries c [] [] c none
  | visit {c a todo vs c' n d r} : c.visitDepthFirst a = (c', .ok n) → Carries c' todo vs d r →
      Carries c (a :: todo) (⟨c, a⟩ :: vs) d r
  | fail {c a todo c' f} : c.visitDepthFirst a = (c', .error f) →
      Carries c (a :: todo) [⟨c, a⟩] c' (some f)
  | bind {c o todo vs d r} : Carries { c with current := o } todo vs d r →
      Carries c todo vs d r
  | restore {c todo vs d o r} : Carries c todo vs d r →
      Carries c todo vs { d with current := o } r

namespace Carries

theorem append {c d e : Context} {l l' : List Action} {vs vs' : List Visit} {r r' : Option Failure}
    (h : Carries c l vs d r) (hr : r = none) (h' : Carries d l' vs' e r') :
    Carries c (l ++ l') (vs ++ vs') e r' := by
  induction h with
  | nil => exact h'
  | visit hv _ ih => exact .visit hv (ih hr h')
  | fail => cases hr
  | bind _ ih => exact .bind (ih hr h')
  | restore _ ih => exact ih hr (.bind h')

/-- What comes after a failure is not visited. -/
theorem append_of_failure {c d : Context} {l : List Action} {vs : List Visit} {r : Option Failure}
    (h : Carries c l vs d r) (hr : r ≠ none) (l' : List Action) : Carries c (l ++ l') vs d r := by
  induction h with
  | nil => exact absurd rfl hr
  | visit hv _ ih => exact .visit hv (ih hr)
  | fail hv => exact .fail hv
  | bind _ ih => exact .bind (ih hr)
  | restore _ ih => exact .restore (ih hr)

/-- Without a failure all actions are visited. -/
theorem map_action {c d : Context} {l : List Action} {vs : List Visit} {r : Option Failure}
    (h : Carries c l vs d r) (hr : r = none) : vs.map Visit.action = l := by
  induction h with
  | nil => rfl
  | visit _ _ ih => rw [List.map_cons, ih hr]
  | fail => cases hr
  | bind _ ih | restore _ ih => exact ih hr

/-- Without a failure all visits come to an end. -/
theorem completes {c d : Context} {l : List Action} {vs : List Visit} {r : Option Failure}
    (h : Carries c l vs d r) (hr : r = none) :
    ∀ v ∈ vs, ∃ n, (v.context.visitDepthFirst v.action).2 = .ok n := by
  induction h with
  | nil => exact fun _ hv => absurd hv List.not_mem_nil
  | @visit _ _ _ _ _ n _ _ hv _ ih =>
    exact List.forall_mem_cons.mpr ⟨⟨n, by rw [hv]⟩, ih hr⟩
  | fail => cases hr
  | bind _ ih | restore _ ih => exact ih hr

/-- A failure is that of the last visit; those before it come to an end, and what is left is
not visited. -/
theorem exists_failed {c d : Context} {l : List Action} {vs : List Visit} {r : Option Failure}
    {f : Failure} (h : Carries c l vs d r) (hr : r = some f) :
    ∃ before v left, vs = before ++ [v] ∧ l = vs.map Visit.action ++ left ∧
      (∀ u ∈ before, ∃ n, (u.context.visitDepthFirst u.action).2 = .ok n) ∧
      (v.context.visitDepthFirst v.action).2 = .error f := by
  induction h with
  | nil => cases hr
  | @visit c a _ _ _ n _ _ hv _ ih =>
    obtain ⟨before, v, left, hvs, hl, hok, hfail⟩ := ih hr
    refine ⟨⟨c, a⟩ :: before, v, left, by rw [hvs, List.cons_append], by rw [hl]; rfl, ?_, hfail⟩
    exact List.forall_mem_cons.mpr ⟨⟨n, by rw [hv]⟩, hok⟩
  | @fail c a todo _ _ hv =>
    cases hr
    exact ⟨[], ⟨c, a⟩, todo, rfl, rfl, fun _ hu => absurd hu List.not_mem_nil, by rw [hv]⟩
  | bind _ ih | restore _ ih => exact ih hr

/-- Only the given actions are visited. -/
theorem action_mem {c d : Context} {l : List Action} {vs : List Visit} {r : Option Failure}
    (h : Carries c l vs d r) : ∀ v ∈ vs, v.action ∈ l := by
  induction h with
  | nil => exact fun _ hv => absurd hv List.not_mem_nil
  | visit _ _ ih =>
    intro v hv
    rcases List.mem_cons.mp hv with rfl | hv
    · exact List.mem_cons_self
    · exact List.mem_cons_of_mem _ (ih v hv)
  | fail =>
    intro v hv
    rw [List.mem_singleton] at hv
    exact hv ▸ List.mem_cons_self
  | bind _ ih | restore _ ih => exact ih

/-- **Induction along the visits.**  What holds at the beginning, and is kept by every visit and
when the event at hand is set, holds at every visit and at the end. -/
theorem invariant {c d : Context} {l : List Action} {vs : List Visit} {r : Option Failure}
    {P : Context → Prop} (h : Carries c l vs d r) (hc : P c)
    (hvisit : ∀ a ∈ l, ∀ c, P c → P (c.visitDepthFirst a).1)
    (hbind : ∀ c o, P c → P { c with current := o }) :
    (∀ v ∈ vs, P v.context) ∧ P d := by
  induction h with
  | nil => exact ⟨fun _ hv => absurd hv List.not_mem_nil, hc⟩
  | @visit c a _ _ c' _ _ _ hv _ ih =>
    have hc' : P c' := by simpa [hv] using hvisit a List.mem_cons_self c hc
    obtain ⟨hvs, hd⟩ := ih hc' fun b hb => hvisit b (List.mem_cons_of_mem _ hb)
    exact ⟨List.forall_mem_cons.mpr ⟨hc, hvs⟩, hd⟩
  | @fail c a _ c' _ hv =>
    refine ⟨List.forall_mem_cons.mpr ⟨hc, fun _ hv => absurd hv List.not_mem_nil⟩, ?_⟩
    simpa [hv] using hvisit a List.mem_cons_self c hc
  | bind _ ih => exact ih (hbind _ _ hc) hvisit
  | restore _ ih =>
    obtain ⟨hvs, hd⟩ := ih hc hvisit
    exact ⟨hvs, hbind _ _ hd⟩

/-- **Composition along the visits.**  What each visit with all that it yields does from its context
to the one behind it, the visits do together, if it can be composed and setting the event at hand
counts for nothing. -/
theorem composes {c d : Context} {l : List Action} {vs : List Visit} {r : Option Failure}
    {R : Context → List Visit → Context → Prop} (h : Carries c l vs d r) (hnil : ∀ c, R c [] c)
    (htrans : ∀ {c d e us vs}, R c us d → R d vs e → R c (us ++ vs) e)
    (hvisit : ∀ c a, R c (c.trail [a]) (c.visitDepthFirst a).1)
    (hbind : ∀ c o, R c [] { c with current := o }) :
    R c (vs.flatMap fun v => v.context.trail [v.action]) d := by
  induction h with
  | nil => exact hnil _
  | @visit c a _ _ c' _ _ _ hv _ ih =>
    have hc' : R c (c.trail [a]) c' := by simpa [hv] using hvisit c a
    rw [List.flatMap_cons]
    exact htrans hc' ih
  | @fail c a _ c' _ hv =>
    rw [List.flatMap_singleton]
    simpa [hv] using hvisit c a
  | bind _ ih => exact htrans (hbind _ _) ih
  | @restore _ _ _ d o _ _ ih =>
    have hd := htrans ih (hbind d o)
    rwa [List.append_nil] at hd

end Carries

/-- The failure that an answer reports. -/
def Failure.of? {α : Type} : Except Failure α → Option Failure
  | .ok _ => none
  | .error f => some f

theorem carries_visitEach (c : Context) (n : Nat) (l : List Action) :
    Carries c l (c.roots l) (c.visitEach n l).1 (Failure.of? (c.visitEach n l).2) := by
  induction l generalizing c n with
  | nil => exact .nil c
  | cons a rest ih =>
    rw [Context.visitEach, Context.roots]
    rcases hv : c.visitDepthFirst a with ⟨c', _ | m⟩
    · exact .fail hv
    · exact .visit hv (ih c' (n + m))

theorem carries_handle (c : Context) (e : Event) (h : Handler) :
    Carries c h.actions (HandlerRun.roots e ⟨c, h⟩) (c.handle e h).1
      (Failure.of? (c.handle e h).2) :=
  .bind (.restore (carries_visitEach _ 0 h.actions))

/-! ## Moments of a service -/

namespace Service

/-- The service once it has taken the next event off the queue. -/
def afterTake (s : Service) : Service :=
  { s with context := { s.context with pending := s.context.pending.tail } }

/-- The service after the visit of an action, before the queue is drained. -/
def afterVisit (s : Service) (a : Action) : Service :=
  match s.context.visitDepthFirst a with
  | (c, .error _) => { s with context := c }
  | (c, .ok n) => { s with context := c, executed := s.executed + n }

theorem context_afterVisit (s : Service) (a : Action) :
    (s.afterVisit a).context = (s.context.visitDepthFirst a).1 := by
  unfold afterVisit
  rcases s.context.visitDepthFirst a with ⟨c, _ | _⟩ <;> rfl

theorem pending_afterTake {s : Service} {e : Event} {rest : List Event}
    (h : s.context.pending = e :: rest) : s.afterTake.context.pending = rest := by
  rw [afterTake, h, List.tail_cons]

/-- The handlers that run when an event that was taken is dispatched. -/
def runsOf (s : Service) (e : Event) : List HandlerRun :=
  match s.acknowledge e with
  | (_, false) => []
  | (s', true) => s'.context.handlerRuns e (s'.context.handlersFor e)

end Service

/-- **A moment of a launch**, with the service that it found: an action of a description is
visited, an event is taken off the queue and dispatched, or an event is taken off the queue
beyond the bound. -/
inductive Moment where
  | entity (s : Service) (a : Action)
  | dispatch (s : Service) (e : Event)
  | overrun (s : Service) (e : Event)

namespace Moment

/-- The service that the moment found. -/
def before : Moment → Service
  | entity s _ | dispatch s _ | overrun s _ => s

/-- The service that the moment left. -/
def after : Moment → Service
  | entity s a => s.afterVisit a
  | dispatch s e => (s.afterTake.dispatch e).1
  | overrun s _ => s.afterTake

/-- The event taken off the queue. -/
def taken? : Moment → Option Event
  | entity .. => none
  | dispatch _ e | overrun _ e => some e

/-- The handlers that ran. -/
def runs : Moment → List HandlerRun
  | dispatch s e => s.afterTake.runsOf e
  | _ => []

/-- The actions visited, without those that they yielded. -/
def roots : Moment → List Visit
  | entity s a => [⟨s.context, a⟩]
  | dispatch s e => (s.afterTake.runsOf e).flatMap (HandlerRun.roots e)
  | overrun .. => []

end Moment

/-- **Moments that follow each other**, as far as `f` can tell: each finds the service that the
one before it left, or one that looks the same. -/
def Linked {α : Type} (f : Service → α) (s : Service) : List Moment → Service → Prop
  | [], t => f s = f t
  | m :: ms, t => f m.before = f s ∧ Linked f m.after ms t

namespace Service

/-- The moments of `drainWithin`. -/
def drainMoments (budget : Nat) (s : Service) : List Moment :=
  match s.context.pending with
  | [] => []
  | e :: _ =>
    match budget with
    | 0 => [.overrun s e]
    | budget + 1 =>
      .dispatch s e :: match s.afterTake.dispatch e with
        | (s', .ok ()) => drainMoments budget s'
        | (_, .error _) => []

/-- The moments of `visit`. -/
def visitMoments (s : Service) (a : Action) : List Moment :=
  .entity s a :: match (s.context.visitDepthFirst a).2 with
    | .ok _ => (s.afterVisit a).drainMoments s.maxDispatches
    | .error _ => []

/-- The moments of `visitUntilShutdown`. -/
def includeMoments (s : Service) : List Action → List Moment
  | [] => []
  | a :: rest =>
    if s.context.isShutdown then []
    else s.visitMoments a ++ match s.visit a with
      | (s', .ok ()) => includeMoments s' rest
      | (_, .error _) => []

/-- A call of a service. -/
inductive Call where
  | includeDescription (d : Description)
  | run (d : Description)
  | deliver (e : Event)

/-- The actions of the description that a call is about. -/
def Call.actions : Call → List Action
  | includeDescription d | run d => d.actions
  | deliver _ => []

/-- The error that an answer reports. -/
def errorOf {α : Type} : Except ServiceError α → Option ServiceError
  | .ok _ => none
  | .error err => some err

theorem errorOf_eq_some_iff {α : Type} {r : Except ServiceError α} {err : ServiceError} :
    errorOf r = some err ↔ r = .error err := by
  cases r <;> simp [errorOf]

/-- Makes a call; the answer is the service afterwards, and the error if there was one. -/
def call (s : Service) : Call → Service × Option ServiceError
  | .includeDescription d => (s.includeDescription d).map id errorOf
  | .run d => (s.run d).map id errorOf
  | .deliver e => (s.deliver e).map id errorOf

/-- The moments of a call. -/
def moments (s : Service) : Call → List Moment
  | .includeDescription d => s.includeMoments d.actions
  | .run d => (s.note (.launching d.size)).includeMoments d.actions
  | .deliver e => drainMoments s.maxDispatches { s with context := s.context.emit e }

end Service

/-! ## One dispatch -/

namespace Service
variable (s : Service) (e : Event)

/-- Handlers carry out their actions, one handler after the other. -/
theorem carries_handleAll (hs : List Handler) :
    ∃ r, Carries s.context (hs.flatMap EventHandler.actions)
        ((s.context.handlerRuns e hs).flatMap (HandlerRun.roots e)) (handleAll e s hs).1.context r ∧
      (handleAll e s hs).2 = match r with
        | none => .ok ()
        | some f => .error (.action f) := by
  induction hs generalizing s with
  | nil => exact ⟨none, .nil _, rfl⟩
  | cons h rest ih =>
    have hcarry := carries_handle s.context e h
    rw [handleAll, Context.handlerRuns]
    rcases hh : s.context.handle e h with ⟨c, f | n⟩
    · rw [hh] at hcarry
      -- the actions of the handlers behind are what is left unvisited
      refine ⟨some f, ?_, rfl⟩
      simpa [Failure.of?] using hcarry.append_of_failure (by simp [Failure.of?]) _
    · rw [hh] at hcarry
      obtain ⟨r, hrest, hr⟩ := ih { s with context := c, executed := s.executed + n }
      refine ⟨r, ?_, hr⟩
      simpa using hcarry.append rfl hrest

/-- How a service takes notice of an event: a request to shut down is dropped while the service
shuts down and otherwise marks the shutdown; any other event changes nothing. -/
theorem acknowledge_cases :
    (∃ reason signal, e = .shutdown reason signal ∧ s.context.isShutdown = true ∧
        s.acknowledge e = (s.note (.shutdownIgnored reason), false)) ∨
      (∃ reason signal, e = .shutdown reason signal ∧ s.context.isShutdown = false ∧
        s.acknowledge e = ({ s.note (.shutdownRequested reason) with
          context := (s.note (.shutdownRequested reason)).context.markShutdown reason }, true)) ∨
      ((∀ reason signal, e ≠ .shutdown reason signal) ∧ s.acknowledge e = (s, true)) := by
  cases e with
  | shutdown reason signal =>
    cases hs : s.context.isShutdown with
    | true => exact Or.inl ⟨reason, signal, rfl, rfl, by simp [acknowledge, hs]⟩
    | false => exact Or.inr (Or.inl ⟨reason, signal, rfl, rfl, by simp [acknowledge, hs]⟩)
  | processStarted | processExited => exact Or.inr (Or.inr ⟨fun _ _ h => (nomatch h), rfl⟩)

/-- Taking notice of an event leaves the handlers alone. -/
theorem handlersFor_acknowledge :
    (s.acknowledge e).1.context.handlersFor e = s.context.handlersFor e := by
  rcases acknowledge_cases s e with ⟨_, _, -, -, h⟩ | ⟨_, _, -, -, h⟩ | ⟨-, h⟩ <;> rw [h] <;> rfl

/-- **One dispatch.**  A request to shut down that comes too late is dropped and leaves only a
record.  Any other event marks at most the shutdown, and then the actions of the handlers that
were registered for it when it was taken are carried out. -/
theorem dispatch_cases :
    (∃ reason signal, e = .shutdown reason signal ∧ s.context.isShutdown = true ∧
        s.dispatch e = (s.note (.shutdownIgnored reason), .ok ()) ∧ s.runsOf e = []) ∨
      ∃ u c r, s.acknowledge e = (u, true) ∧
        Carries u.context ((s.context.handlersFor e).flatMap EventHandler.actions)
          ((s.runsOf e).flatMap (HandlerRun.roots e)) c r ∧
        ((s.dispatch e).1.context = c ∨ (s.dispatch e).1.context = c.note (.unhandled e)) ∧
        (s.dispatch e).2 = match r with
          | none => .ok ()
          | some f => .error (.action f) := by
  have hfor := handlersFor_acknowledge s e
  rcases hack : s.acknowledge e with ⟨u, _ | _⟩
  · rcases acknowledge_cases s e with ⟨reason, signal, he, hs, h⟩ | ⟨_, _, -, -, h⟩ | ⟨-, h⟩
    · exact Or.inl ⟨reason, signal, he, hs, by rw [dispatch, h], by rw [runsOf, h]⟩
    · rw [hack] at h
      cases h
    · rw [hack] at h
      cases h
  · rw [hack] at hfor
    -- the handlers looked up afterwards are those registered when the event was taken
    rw [← hfor, dispatch, runsOf, hack]
    cases hh : u.context.handlersFor e with
    | nil =>
      refine Or.inr ⟨u, u.context, none, rfl, ?_, Or.inr ?_, ?_⟩
      · simp only [hh]
        exact Carries.nil u.context
      · simp only [hh, note]
      · simp only [hh]
    | cons h rest =>
      obtain ⟨r, hcarry, hr⟩ := carries_handleAll u e (h :: rest)
      refine Or.inr ⟨u, _, r, rfl, ?_, Or.inl rfl, ?_⟩
      · simpa only [hh] using hcarry
      · simpa only [hh] using hr

end Service

/-! ## The store -/

/-- The two contexts differ in the bookkeeping only: they hold the same values, open scopes and
handlers. -/
structure Context.SameStore (c d : Context) : Prop where
  configurations : d.configurations = c.configurations
  environment : d.environment = c.environment
  saved : d.saved = c.saved
  handlers : d.handlers = c.handlers

theorem Service.sameStore_acknowledge (s : Service) (e : Event) :
    s.context.SameStore (s.acknowledge e).1.context := by
  rcases s.acknowledge_cases e with ⟨_, _, -, -, h⟩ | ⟨_, _, -, -, h⟩ | ⟨-, h⟩ <;> rw [h] <;>
    exact ⟨rfl, rfl, rfl, rfl⟩

/-! ## Calls as paths -/

/-- The record tells of a call as a whole, and not of an action or an event. -/
def Record.IsSummary : Record → Prop
  | .launching _ | .leftOut _ | .shutDown _ | .processed => True
  | _ => False

theorem Record.IsSummary.emission?_eq_none {r : Record} (h : r.IsSummary) :
    r.emission? = none := by
  cases r with
  | emitting e => exact absurd h id
  | _ => rfl

/-- **A path through the moments of a launch.**  Between two moments only such records are
written and events emitted. -/
inductive Path : Service → List Moment → Service → Prop
  | nil (s) : Path s [] s
  | note {s r ms t} : r.IsSummary → Path (s.note r) ms t → Path s ms t
  | emit {s e ms t} : Path { s with context := s.context.emit e } ms t → Path s ms t
  | entity {s a ms t} : Path (s.afterVisit a) ms t → Path s (.entity s a :: ms) t
  | dispatch {s e rest ms t} : s.context.pending = e :: rest →
      Path (s.afterTake.dispatch e).1 ms t → Path s (.dispatch s e :: ms) t
  | overrun {s e rest ms t} : s.context.pending = e :: rest →
      Path s.afterTake ms t → Path s (.overrun s e :: ms) t

theorem Path.append {s t u : Service} {ms ns : List Moment} (h : Path s ms t) (h' : Path t ns u) :
    Path s (ms ++ ns) u := by
  induction h with
  | nil => exact h'
  | note hr _ ih => exact .note hr (ih h')
  | emit _ ih => exact .emit (ih h')
  | entity _ ih => exact .entity (ih h')
  | dispatch hp _ ih => exact .dispatch hp (ih h')
  | overrun hp _ ih => exact .overrun hp (ih h')

/-- **Induction along a path.**  Suppose a property of the store is kept by the visit of every
action of some kind, and while it holds the handlers hold such actions only.  If it holds at the
beginning, and the actions of descriptions are of that kind, then it holds at every visit and at
the end, and only such actions are visited. -/
theorem Path.invariant {I : Context → Prop} {Q : Action → Prop} {s t : Service} {ms : List Moment}
    (h : Path s ms t) (hs : I s.context) (hentity : ∀ u a, Moment.entity u a ∈ ms → Q a)
    (hstore : ∀ {c d : Context}, I c → c.SameStore d → I d)
    (hhandlers : ∀ {c : Context}, I c → ∀ h ∈ c.handlers, ∀ a ∈ h.actions, Q a)
    (hvisit : ∀ {c a}, Q a → I c → I (c.visitDepthFirst a).1) :
    I t.context ∧ ∀ m ∈ ms, ∀ v ∈ m.roots, I v.context ∧ Q v.action := by
  induction h with
  | nil => exact ⟨hs, fun _ hm => absurd hm List.not_mem_nil⟩
  | note _ _ ih | emit _ ih => exact ih (hstore hs ⟨rfl, rfl, rfl, rfl⟩) hentity
  | @entity s a _ _ _ ih =>
    have ha : Q a := hentity s a List.mem_cons_self
    have hafter : I (s.afterVisit a).context := by
      rw [s.context_afterVisit a]
      exact hvisit ha hs
    obtain ⟨ht, hms⟩ := ih hafter fun u b hb => hentity u b (List.mem_cons_of_mem _ hb)
    refine ⟨ht, List.forall_mem_cons.mpr ⟨?_, hms⟩⟩
    intro v hv
    rw [Moment.roots, List.mem_singleton] at hv
    exact hv ▸ ⟨hs, ha⟩
  | @dispatch s e _ _ _ _ _ ih =>
    have htake : I s.afterTake.context := hstore hs ⟨rfl, rfl, rfl, rfl⟩
    have hdispatch : I (s.afterTake.dispatch e).1.context ∧
        ∀ v ∈ (Moment.dispatch s e).roots, I v.context ∧ Q v.action := by
      rcases s.afterTake.dispatch_cases e with
        ⟨_, _, -, -, hd, hruns⟩ | ⟨u, c, r, hack, hcarry, hd, -⟩
      · rw [hd, Moment.roots, hruns]
        exact ⟨hstore htake ⟨rfl, rfl, rfl, rfl⟩, fun _ hv => absurd hv List.not_mem_nil⟩
      · have hu : I u.context := by
          have := s.afterTake.sameStore_acknowledge e
          rw [hack] at this
          exact hstore htake this
        have hall : ∀ a ∈ (s.afterTake.context.handlersFor e).flatMap EventHandler.actions,
            Q a := by
          intro a ha
          obtain ⟨h, hh, ha⟩ := List.mem_flatMap.mp ha
          exact hhandlers htake h (List.mem_filter.mp hh).1 a ha
        obtain ⟨hvs, hc⟩ := hcarry.invariant hu (fun a ha c hc => hvisit (hall a ha) hc)
          fun c o hc => hstore hc ⟨rfl, rfl, rfl, rfl⟩
        refine ⟨?_, fun v hv => ⟨hvs v hv, hall _ (hcarry.action_mem v hv)⟩⟩
        rcases hd with hd | hd <;> rw [hd]
        · exact hc
        · exact hstore hc ⟨rfl, rfl, rfl, rfl⟩
    obtain ⟨ht, hms⟩ := ih hdispatch.1 fun u b hb => hentity u b (List.mem_cons_of_mem _ hb)
    exact ⟨ht, List.forall_mem_cons.mpr ⟨hdispatch.2, hms⟩⟩
  | overrun _ _ ih =>
    obtain ⟨ht, hms⟩ := ih (hstore hs ⟨rfl, rfl, rfl, rfl⟩)
      fun u b hb => hentity u b (List.mem_cons_of_mem _ hb)
    exact ⟨ht, List.forall_mem_cons.mpr ⟨fun _ hv => absurd hv List.not_mem_nil, hms⟩⟩

namespace Service

/-- **A drain**, turn by turn: it ends on an empty queue, fails beyond the bound, and otherwise
dispatches the next event, after which it goes on unless the dispatch failed. -/
inductive Drains : Nat → Service → List Moment → Service → Except ServiceError Unit → Prop
  | empty {b s} : s.context.pending = [] → Drains b s [] s (.ok ())
  | overrun {s e rest} : s.context.pending = e :: rest →
      Drains 0 s [.overrun s e] s.afterTake (.error (.dispatchLimit s.maxDispatches))
  | failed {b s e rest err} : s.context.pending = e :: rest →
      (s.afterTake.dispatch e).2 = .error err →
      Drains (b + 1) s [.dispatch s e] (s.afterTake.dispatch e).1 (.error err)
  | next {b s e rest ms t r} : s.context.pending = e :: rest →
      (s.afterTake.dispatch e).2 = .ok () → Drains b (s.afterTake.dispatch e).1 ms t r →
      Drains (b + 1) s (.dispatch s e :: ms) t r

theorem drains_drainWithin (budget : Nat) (s : Service) :
    Drains budget s (s.drainMoments budget) (s.drainWithin budget).1 (s.drainWithin budget).2 := by
  induction budget generalizing s with
  | zero =>
    unfold drainWithin drainMoments Context.takePending?
    cases hp : s.context.pending with
    | nil => exact .empty hp
    | cons e rest => simpa [afterTake, hp] using Drains.overrun hp
  | succ b ih =>
    rw [drainWithin, drainMoments, Context.takePending?]
    cases hp : s.context.pending with
    | nil => exact .empty hp
    | cons e rest =>
      have htake : ({ s with context := { s.context with pending := rest } } : Service)
          = s.afterTake := by
        simp [afterTake, hp]
      simp only [htake]
      rcases hd : s.afterTake.dispatch e with ⟨t, err | ⟨⟩⟩
      · have herr : (s.afterTake.dispatch e).2 = .error err := by rw [hd]
        simpa [hd] using Drains.failed (b := b) hp herr
      · simpa [hd] using Drains.next hp (by rw [hd]) (by simpa [hd] using ih t)

theorem Drains.path {b : Nat} {s t : Service} {ms : List Moment} {r : Except ServiceError Unit}
    (h : Drains b s ms t r) : Path s ms t := by
  induction h with
  | empty => exact .nil _
  | overrun hp => exact .overrun hp (.nil _)
  | failed hp => exact .dispatch hp (.nil _)
  | next hp _ _ ih => exact .dispatch hp ih

/-- **An inclusion**, action by action: once the launch shuts down the rest is left out; a
failed visit or a failed drain ends it. -/
inductive Includes : Service → List Action → List Moment → Service → Except ServiceError Unit →
    Prop
  | done (s) : Includes s [] [] s (.ok ())
  | leftOut {s a rest} : s.context.isShutdown = true →
      Includes s (a :: rest) [] (s.note (.leftOut (rest.length + 1))) (.ok ())
  | failed {s a rest f} : s.context.isShutdown = false →
      (s.context.visitDepthFirst a).2 = .error f →
      Includes s (a :: rest) [.entity s a] (s.afterVisit a) (.error (.action f))
  | stuck {s a rest n ms t err} : s.context.isShutdown = false →
      (s.context.visitDepthFirst a).2 = .ok n →
      Drains s.maxDispatches (s.afterVisit a) ms t (.error err) →
      Includes s (a :: rest) (.entity s a :: ms) t (.error err)
  | next {s a rest n ms t ns u r} : s.context.isShutdown = false →
      (s.context.visitDepthFirst a).2 = .ok n →
      Drains s.maxDispatches (s.afterVisit a) ms t (.ok ()) → Includes t rest ns u r →
      Includes s (a :: rest) (.entity s a :: (ms ++ ns)) u r

theorem includes_visitUntilShutdown (s : Service) (l : List Action) :
    Includes s l (s.includeMoments l) (s.visitUntilShutdown l).1 (s.visitUntilShutdown l).2 := by
  induction l generalizing s with
  | nil => exact .done s
  | cons a rest ih =>
    rw [includeMoments, visitUntilShutdown]
    cases hs : s.context.isShutdown with
    | true => simpa using Includes.leftOut hs
    | false =>
      have hdrain := drains_drainWithin s.maxDispatches (s.afterVisit a)
      rw [visitMoments]
      rcases hv : s.context.visitDepthFirst a with ⟨c, f | n⟩
      · have hvisit : s.visit a = (s.afterVisit a, .error (.action f)) := by
          simp [visit, afterVisit, hv]
        simpa [hvisit] using Includes.failed hs (by rw [hv])
      · have hvisit : s.visit a = (s.afterVisit a).drainWithin s.maxDispatches := by
          simp [visit, afterVisit, hv, drain]
        rw [hvisit]
        rcases hr : (s.afterVisit a).drainWithin s.maxDispatches with ⟨t, err | ⟨⟩⟩
        · rw [hr] at hdrain
          simpa using Includes.stuck hs (by rw [hv]) hdrain
        · rw [hr] at hdrain
          simpa using Includes.next hs (by rw [hv]) hdrain (ih t)

/-- A drain visits no action of a description. -/
theorem Drains.not_entity {b : Nat} {s t u : Service} {ms : List Moment} {a : Action}
    {r : Except ServiceError Unit} (h : Drains b s ms t r) : Moment.entity u a ∉ ms := by
  induction h with
  | empty => exact List.not_mem_nil
  | overrun | failed => simp
  | next _ _ _ ih => simpa using ih

/-- The failure of a drain is that of a visit. -/
theorem Drains.exists_root {b : Nat} {s t : Service} {ms : List Moment}
    {r : Except ServiceError Unit} {f : Failure} (h : Drains b s ms t r)
    (hr : r = .error (.action f)) :
    ∃ m ∈ ms, ∃ v ∈ m.roots, (v.context.visitDepthFirst v.action).2 = .error f := by
  induction h with
  | empty | overrun => cases hr
  | @failed b s e rest err hp herr =>
    cases hr
    refine ⟨_, List.mem_singleton_self _, ?_⟩
    rcases s.afterTake.dispatch_cases e with ⟨_, _, -, -, hd, -⟩ | ⟨u, c, r, -, hcarry, -, hr⟩
    · rw [hd] at herr
      cases herr
    · rw [herr] at hr
      cases r with
      | none => cases hr
      | some g =>
        cases hr
        obtain ⟨before, v, -, hvs, -, -, hfail⟩ := hcarry.exists_failed rfl
        exact ⟨v, by rw [Moment.roots, hvs]; exact List.mem_concat_self, hfail⟩
  | next _ _ _ ih =>
    obtain ⟨m, hm, hroot⟩ := ih hr
    exact ⟨m, List.mem_cons_of_mem _ hm, hroot⟩

/-- An inclusion visits only the actions given, at the top. -/
theorem Includes.mem_of_entity {s t u : Service} {l : List Action} {ms : List Moment} {a : Action}
    {r : Except ServiceError Unit} (h : Includes s l ms t r) (ha : Moment.entity u a ∈ ms) :
    a ∈ l := by
  induction h with
  | done | leftOut => exact absurd ha List.not_mem_nil
  | failed =>
    rw [List.mem_singleton] at ha
    cases ha
    exact List.mem_cons_self
  | stuck _ _ hd =>
    rcases List.mem_cons.mp ha with ha | ha
    · cases ha
      exact List.mem_cons_self
    · exact absurd ha hd.not_entity
  | next _ _ hd _ ih =>
    rcases List.mem_cons.mp ha with ha | ha
    · cases ha
      exact List.mem_cons_self
    rcases List.mem_append.mp ha with ha | ha
    · exact absurd ha hd.not_entity
    · exact List.mem_cons_of_mem _ (ih ha)

/-- The failure of an inclusion is that of a visit. -/
theorem Includes.exists_root {s t : Service} {l : List Action} {ms : List Moment}
    {r : Except ServiceError Unit} {f : Failure} (h : Includes s l ms t r)
    (hr : r = .error (.action f)) :
    ∃ m ∈ ms, ∃ v ∈ m.roots, (v.context.visitDepthFirst v.action).2 = .error f := by
  induction h with
  | done | leftOut => cases hr
  | @failed s a rest g _ hv =>
    cases hr
    exact ⟨_, List.mem_singleton_self _, ⟨s.context, a⟩, List.mem_singleton_self _, hv⟩
  | stuck _ _ hd =>
    obtain ⟨m, hm, hroot⟩ := hd.exists_root hr
    exact ⟨m, List.mem_cons_of_mem _ hm, hroot⟩
  | next _ _ _ _ ih =>
    obtain ⟨m, hm, hroot⟩ := ih hr
    exact ⟨m, List.mem_cons_of_mem _ (List.mem_append_right _ hm), hroot⟩

theorem Includes.path {s t : Service} {l : List Action} {ms : List Moment}
    {r : Except ServiceError Unit} (h : Includes s l ms t r) : Path s ms t := by
  induction h with
  | done => exact .nil _
  | leftOut => exact .note (r := .leftOut _) trivial (.nil _)
  | failed => exact .entity (.nil _)
  | stuck _ _ hd => exact .entity hd.path
  | next _ _ hd _ ih => exact .entity (hd.path.append ih)

/-- A run is an inclusion with a record before it, and one behind it if it succeeds. -/
theorem run_cases (s : Service) (d : Description) :
    ∃ t r, Includes (s.note (.launching d.size)) d.actions (s.moments (.run d)) t r ∧
      ((∃ err, r = .error err ∧ s.run d = (t, .error err)) ∨
        ∃ x, x.IsSummary ∧ r = .ok () ∧ s.run d = (t.note x, .ok t.outcome)) := by
  refine ⟨_, _, includes_visitUntilShutdown _ d.actions, ?_⟩
  simp only [run, includeDescription]
  rcases (s.note (.launching d.size)).visitUntilShutdown d.actions with ⟨t, err | ⟨⟩⟩
  · exact Or.inl ⟨err, rfl, rfl⟩
  · refine Or.inr ⟨_, ?_, rfl, rfl⟩
    cases t.context.shutdownReason <;> trivial

/-- A call drains the queue after an emission, or includes its description and then leaves at
most a record. -/
theorem call_cases (s : Service) (k : Call) :
    (∃ e t r, k = .deliver e ∧
        Drains s.maxDispatches { s with context := s.context.emit e } (s.moments k) t r ∧
        s.call k = (t, errorOf r)) ∨
      ∃ s₁ t r, (s₁ = s ∨ ∃ n, s₁ = s.note (.launching n)) ∧
        Includes s₁ k.actions (s.moments k) t r ∧ (s.call k).2 = errorOf r ∧
        ((s.call k).1 = t ∨ ∃ x, x.IsSummary ∧ (s.call k).1 = t.note x) := by
  cases k with
  | includeDescription d =>
    have hin := includes_visitUntilShutdown s d.actions
    exact Or.inr ⟨s, _, _, Or.inl rfl, hin, rfl, Or.inl rfl⟩
  | run d =>
    obtain ⟨t, r, hin, hrun⟩ := s.run_cases d
    refine Or.inr ⟨_, t, r, Or.inr ⟨d.size, rfl⟩, hin, ?_⟩
    rw [call]
    rcases hrun with ⟨err, rfl, hrun⟩ | ⟨x, hx, rfl, hrun⟩ <;> rw [hrun]
    · exact ⟨rfl, Or.inl rfl⟩
    · exact ⟨rfl, Or.inr ⟨x, hx, rfl⟩⟩
  | deliver e => exact Or.inl ⟨e, _, _, rfl, drains_drainWithin _ _, rfl⟩

/-- **A call is a path** through its moments, from the service before it to the one after it. -/
theorem path_call (s : Service) (k : Call) : Path s (s.moments k) (s.call k).1 := by
  rcases s.call_cases k with ⟨e, t, r, -, hd, hcall⟩ | ⟨s₁, t, r, hs₁, hin, -, ht⟩
  · rw [hcall]
    exact .emit hd.path
  · -- a run writes a record before the inclusion and one behind it
    have hend : Path s₁ (s.moments k) (s.call k).1 := by
      rcases ht with ht | ⟨x, hx, ht⟩ <;> rw [ht]
      · exact hin.path
      · rw [← List.append_nil (s.moments k)]
        exact hin.path.append (.note hx (.nil _))
    rcases hs₁ with rfl | ⟨n, rfl⟩
    · exact hend
    · exact .note (r := .launching n) trivial hend

/-- Only the actions of the description are visited at the top of a call. -/
theorem mem_actions_of_entity {s u : Service} {k : Call} {a : Action}
    (h : Moment.entity u a ∈ s.moments k) : a ∈ k.actions := by
  rcases s.call_cases k with ⟨e, t, r, -, hd, -⟩ | ⟨s₁, t, r, -, hin, -⟩
  · exact absurd h hd.not_entity
  · exact hin.mem_of_entity h

/-- The failure that a call reports is that of one of its visits. -/
theorem exists_root_of_call {s : Service} {k : Call} {f : Failure}
    (h : (s.call k).2 = some (.action f)) :
    ∃ m ∈ s.moments k, ∃ v ∈ m.roots, (v.context.visitDepthFirst v.action).2 = .error f := by
  rcases s.call_cases k with ⟨e, t, r, -, hd, hcall⟩ | ⟨s₁, t, r, -, hin, hcall, -⟩
  · rw [hcall, errorOf_eq_some_iff] at h
    exact hd.exists_root h
  · rw [hcall, errorOf_eq_some_iff] at h
    exact hin.exists_root h

/-! ## A service that is set up -/

theorem context_foldl_setConfiguration (l : List (String × String)) (c : Context) :
    l.foldl (fun c e => c.setConfiguration e.1 e.2) c =
      { c with configurations := l.foldl (fun m e => m.insert e.1 e.2) c.configurations } := by
  induction l generalizing c with
  | nil => rfl
  | cons e rest ih => exact ih (c.setConfiguration e.1 e.2)

/-- A service begins with its launch arguments as the launch configurations, and with nothing
else but the environment. -/
theorem context_ofConfig (config : ServiceConfig) (environment : OrderedMap String) :
    (ofConfig config environment).context =
      { Context.ofEnvironment (if config.inheritEnvironment then environment else .empty) with
        configurations := config.arguments } := by
  have harguments := config.arguments.ofList_entries
  rw [OrderedMap.ofList] at harguments
  simp only [ofConfig, context_foldl_setConfiguration, Context.ofEnvironment, harguments]

end Service
end LaunchPlan
