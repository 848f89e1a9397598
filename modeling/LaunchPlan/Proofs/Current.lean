import LaunchPlan.Proofs.Reach
import LaunchPlan.Proofs.Shutdown

/-! # The event at hand

While handlers run for an event it is the event at hand, for them and for all that their groups
yield, and for nothing else: a call of a service leaves at hand what it found, however it ends.

One action looks at the event at hand.  A request to shut down that is made while the end of a
process is handled is preceded by the record that the process was required.  The log tells these
requests exactly (`Context.Reports`): the records of that kind are those of the visits that
request a shutdown there, in order, and each stands right before the request.
-/
namespace LaunchPlan

/-! ## Nothing but handling binds an event -/

namespace Context

/-- Operations on a context leave the event at hand, also when some of them are made while
another is. -/
theorem Edits.current {c d : Context} (h : c.Edits d) : d.current = c.current := by
  induction h with
  | refl => rfl
  | pop hpop _ ih =>
    obtain ⟨s, rest, -, rfl⟩ := exists_saved_of_pop hpop
    exact ih
  | take htake _ ih =>
    unfold takePending? at htake
    split at htake <;> cases htake
    exact ih
  | visit hv _ ih => exact ih.trans (Action.continues_of_visit hv).current
  | handling _ _ _ _ ih => exact ih
  | setVariable _ _ _ ih | setConfiguration _ _ _ ih | unsetVariable _ _ ih
  | resetConfigurations _ _ ih | emit _ _ ih | register _ _ ih | unregister _ _ ih
  | push _ ih => exact ih

/-- All visits find the event at hand that the first of them found. -/
theorem current_of_mem_trail {c : Context} {a : Action} {v : Visit} (hv : v ∈ c.trail [a]) :
    v.context.current = c.current := by
  rw [trail_eq] at hv
  exact (evaluate_keeps (f := Context.current) (P := fun _ => True) (fun _ _ => trivial)
    (fun _ h => (Action.continues_of_visit h).current) (fun _ _ => trivial) c).2 v hv

theorem current_of_mem_roots {c : Context} {l : List Action} {v : Visit} (hv : v ∈ c.roots l) :
    v.context.current = c.current := by
  induction l generalizing c with
  | nil => exact absurd hv List.not_mem_nil
  | cons a rest ih =>
    have hnext := (c.continues_visitDepthFirst a).current
    rw [roots] at hv
    rcases hd : c.visitDepthFirst a with ⟨c', f | n⟩ <;> rw [hd] at hv hnext
    · rw [List.mem_singleton] at hv
      rw [hv]
    · rcases List.mem_cons.mp hv with rfl | hv
      · rfl
      · exact (ih hv).trans hnext

end Context

namespace Service

theorem current_acknowledge (s : Service) (e : Event) :
    (s.acknowledge e).1.context.current = s.context.current := by
  rcases s.acknowledge_cases e with ⟨_, _, -, -, h⟩ | ⟨_, _, -, -, h⟩ | ⟨-, h⟩ <;> rw [h] <;> rfl

theorem current_handleAll (e : Event) (s : Service) (hs : List Handler) :
    (handleAll e s hs).1.context.current = s.context.current := by
  induction hs generalizing s with
  | nil => rfl
  | cons h rest ih =>
    have hhandle : (s.context.handle e h).1.current = s.context.current := rfl
    rw [handleAll]
    rcases hc : s.context.handle e h with ⟨c, f | n⟩ <;> rw [hc] at hhandle
    · exact hhandle
    · exact (ih _).trans hhandle

theorem current_dispatch (s : Service) (e : Event) :
    (s.dispatch e).1.context.current = s.context.current := by
  have hack := s.current_acknowledge e
  rw [dispatch]
  rcases h : s.acknowledge e with ⟨u, _ | _⟩ <;> rw [h] at hack
  · exact hack
  · dsimp only
    split
    · exact hack
    · exact (current_handleAll e u _).trans hack

end Service

namespace Moment

/-- All actions visited, those that groups yield included. -/
def visits (m : Moment) : List Visit := m.roots.flatMap fun v => v.context.trail [v.action]

theorem visits_entity (s : Service) (a : Action) :
    (entity s a).visits = s.context.trail [a] := by
  rw [visits, roots, List.flatMap_singleton]

theorem current_after (m : Moment) : m.after.context.current = m.before.context.current := by
  cases m with
  | entity s a =>
    show (s.afterVisit a).context.current = s.context.current
    rw [s.context_afterVisit a]
    exact (s.context.continues_visitDepthFirst a).current
  | dispatch s e => exact s.afterTake.current_dispatch e
  | overrun => rfl

/-- An action of a description finds the event at hand that the service has. -/
theorem current_of_mem_entity {s : Service} {a : Action} {v : Visit}
    (hv : v ∈ (entity s a).visits) : v.context.current = s.context.current := by
  rw [visits_entity] at hv
  exact Context.current_of_mem_trail hv

/-- An action of a handler finds the event that is dispatched. -/
theorem current_of_mem_dispatch {s : Service} {e : Event} {v : Visit}
    (hv : v ∈ (dispatch s e).visits) : v.context.current = some e := by
  obtain ⟨r, hr, hv⟩ := List.mem_flatMap.mp hv
  obtain ⟨run, -, hr⟩ := List.mem_flatMap.mp hr
  rw [Context.current_of_mem_trail hv, Context.current_of_mem_roots hr]

end Moment

/-- Along a path the event at hand is that of the beginning, before each moment and after it. -/
theorem Path.current {s t : Service} {ms : List Moment} (h : Path s ms t) :
    t.context.current = s.context.current ∧
      ∀ m ∈ ms, m.before.context.current = s.context.current := by
  -- the step of a path that begins with a moment
  have cons : ∀ {m : Moment} {ms : List Moment}, t.context.current = m.after.context.current ∧
      (∀ n ∈ ms, n.before.context.current = m.after.context.current) →
      t.context.current = m.before.context.current ∧
        ∀ n ∈ m :: ms, n.before.context.current = m.before.context.current := by
    rintro m ms ⟨ht, hms⟩
    rw [m.current_after] at ht hms
    exact ⟨ht, List.forall_mem_cons.mpr ⟨rfl, hms⟩⟩
  induction h with
  | nil => exact ⟨rfl, fun _ hm => absurd hm List.not_mem_nil⟩
  | note _ _ ih | emit _ ih => exact ih cons
  | @entity s a _ _ _ ih => exact cons (m := .entity s a) (ih cons)
  | @dispatch s e _ _ _ _ _ ih => exact cons (m := .dispatch s e) (ih cons)
  | @overrun s e _ _ _ _ _ ih => exact cons (m := .overrun s e) (ih cons)

/-! ## Required processes -/

/-- The process that has ended. -/
def Event.exited? : Event → Option String
  | .processExited p _ _ => some p
  | _ => none

/-- The reason of the request to shut down that a visit makes: its action is a shutdown, the
condition holds and the reason has a value. -/
def Visit.request? (v : Visit) : Option String :=
  match v.action, v.action.mayRun v.context with
  | .shutdown _ reason, .ok true => (v.context.value reason).toOption
  | _, _ => none

/-- The request that a visit makes while the end of a process is at hand: the process, and the
reason. -/
def Visit.required? (v : Visit) : Option (String × String) :=
  (v.context.current.bind Event.exited?).bind fun p => v.request?.map (p, ·)

/-- The requests that handlers make while the end of a process is dispatched. -/
def Moment.required : Moment → List (String × String)
  | dispatch s e =>
    match e.exited? with
    | some p => ((dispatch s e).visits.filterMap Visit.request?).map (p, ·)
    | none => []
  | _ => []

theorem Visit.request?_eq_some_iff {v : Visit} {r : String} :
    v.request? = some r ↔ ∃ cond reason, v.action = .shutdown cond reason ∧
      v.action.mayRun v.context = .ok true ∧ v.context.value reason = .ok r := by
  unfold request?
  constructor
  · intro h
    split at h
    · rename_i cond reason ha hrun
      refine ⟨cond, reason, ha, hrun, ?_⟩
      cases hvalue : v.context.value reason with
      | error cause => simp [hvalue, Except.toOption] at h
      | ok r' => simpa [hvalue, Except.toOption] using h
    · cases h
  · rintro ⟨cond, reason, ha, hrun, hvalue⟩
    rw [hrun, ha]
    simp only [hvalue, Except.toOption]

/-- A visit that requests a shutdown succeeds. -/
theorem Visit.visit_of_request {v : Visit} {r : String} (h : v.request? = some r) :
    v.action.visit v.context =
      .ok (v.context.noteRequired.emit (.shutdown r false), none) := by
  obtain ⟨cond, reason, ha, hrun, hvalue⟩ := request?_eq_some_iff.mp h
  rw [ha] at hrun ⊢
  rw [Action.visit, hrun]
  show (v.context.value reason >>= _) = _
  rw [hvalue]
  rfl

theorem Context.noteRequired_eq (c : Context) :
    c.noteRequired = match c.current.bind Event.exited? with
      | some p => c.note (.wasRequired p)
      | none => c := by
  unfold noteRequired
  rcases c.current with _ | _ | _ | _ <;> rfl

/-- **The records tell the requests.**  A record that a process was required stands right before
the request that was made for it, and there is no other record of that kind. -/
inductive Tells : List Record → List (String × String) → Prop
  | nil : Tells [] []
  | other {x xs l} : (∀ p, x ≠ .wasRequired p) → Tells xs l → Tells (x :: xs) l
  | required {p r xs l} : Tells xs l →
      Tells (.wasRequired p :: .emitting (.shutdown r false) :: xs) ((p, r) :: l)

namespace Tells
variable {xs ys : List Record} {l m : List (String × String)}

theorem append (h : Tells xs l) (h' : Tells ys m) : Tells (xs ++ ys) (l ++ m) := by
  induction h with
  | nil => exact h'
  | other hx _ ih => exact .other hx ih
  | required _ ih => exact .required ih

theorem mem_iff (h : Tells xs l) {p : String} :
    .wasRequired p ∈ xs ↔ ∃ r, (p, r) ∈ l := by
  induction h with
  | nil => simp
  | other hx _ ih => rw [List.mem_cons, ← ih, or_iff_right (hx p).symm]
  | required _ ih => simp [ih, exists_or]

end Tells

/-- From `c` to `d` the log has grown by records that tell these requests. -/
def Context.Reports (c d : Context) (l : List (String × String)) : Prop :=
  ∃ records, d.log.toList = c.log.toList ++ records ∧ Tells records l

namespace Context.Reports
variable {c d e : Context} {l m : List (String × String)}

theorem of_eq (h : d.log = c.log) : c.Reports d [] := ⟨[], by rw [h, List.append_nil], .nil⟩

theorem trans (h : c.Reports d l) (h' : d.Reports e m) : c.Reports e (l ++ m) := by
  obtain ⟨xs, hlog, htells⟩ := h
  obtain ⟨ys, hlog', htells'⟩ := h'
  exact ⟨xs ++ ys, by rw [hlog', hlog, List.append_assoc], htells.append htells'⟩

theorem note (c : Context) {x : Record} (h : ∀ p, x ≠ .wasRequired p) :
    c.Reports (c.note x) [] :=
  ⟨[x], by simp [Context.note], .other h .nil⟩

theorem emit (c : Context) (e : Event) : c.Reports (c.emit e) [] :=
  ⟨[.emitting e], by simp [Context.emit, Context.note], .other (fun _ h => nomatch h) .nil⟩

theorem required (c : Context) (p r : String) :
    c.Reports ((c.note (.wasRequired p)).emit (.shutdown r false)) [(p, r)] :=
  ⟨[.wasRequired p, .emitting (.shutdown r false)], by simp [Context.emit, Context.note],
    .required .nil⟩

end Context.Reports

/-! ## The record in words -/

namespace Record

theorem head?_append {s t : String} {c : Char} (h : s.toList.head? = some c) :
    (s ++ t).toList.head? = some c := by
  rw [String.toList_append, List.head?_append, h, Option.some_or]

/-- Among the records of its level, that of a required process is told by its first character. -/
theorem head?_message {x : Record} (hlevel : x.level = .info) (hx : ∀ p, x ≠ .wasRequired p) :
    x.message.toList.head? = some 'L' ∨ x.message.toList.head? = some 'S' := by
  cases x with
  | wasRequired p => exact absurd rfl (hx p)
  | processed => exact Or.inl rfl
  | loading | shutDown => exact Or.inl (head?_append rfl)
  | launching => exact Or.inl (head?_append (head?_append rfl))
  | leftOut => exact Or.inr (head?_append (head?_append rfl))
  | shutdownRequested => exact Or.inr (head?_append rfl)
  | _ => cases hlevel

theorem eq_wasRequired_iff {x : Record} {p : String} :
    x = .wasRequired p ↔ x.level = .info ∧
      x.message = "process[" ++ p ++ "] was required: shutting down launched system" := by
  constructor
  · rintro rfl
    exact ⟨rfl, rfl⟩
  · rintro ⟨hlevel, hmessage⟩
    by_cases hx : ∃ q, x = .wasRequired q
    · obtain ⟨q, rfl⟩ := hx
      have hwords : "process[" ++ q ++ "] was required: shutting down launched system" =
          "process[" ++ p ++ "] was required: shutting down launched system" := hmessage
      rw [String.append_left_inj, String.append_right_inj] at hwords
      rw [hwords]
    · have hhead : x.message.toList.head? = some 'p' := by
        rw [hmessage]
        exact head?_append (head?_append rfl)
      rcases head?_message hlevel (not_exists.mp hx) with h | h
      · rw [h] at hhead
        cases hhead
      · rw [h] at hhead
        cases hhead

end Record

/-! ## The records of a launch -/

namespace Visit
variable {v : Visit}

theorem required?_eq_none (h : v.request? = none) : v.required? = none := by
  unfold required?
  rw [h]
  cases v.context.current.bind Event.exited? <;> rfl

/-- A visit that requests no shutdown writes no such record. -/
theorem reports_of_request_eq_none {c c' : Context} {a : Action} {next : Option (List Action)}
    (h : a.visit c = .ok (c', next)) (hr : request? ⟨c, a⟩ = none) : c.Reports c' [] := by
  rcases Action.visit_cases h with ⟨-, rfl, -⟩ | ⟨hrun, hx⟩
  · exact .note c fun _ h => nomatch h
  · cases hx with
    | @shutdown cond reason r hvalue =>
      rw [request?_eq_some_iff.mpr ⟨cond, reason, rfl, hrun, hvalue⟩] at hr
      cases hr
    | setVariable | unsetVariable | resetConfigurations | log | unregisterAbsent =>
      exact .note c fun _ h => nomatch h
    | emit => exact .emit c _
    | popConfigurations hpop =>
      obtain ⟨s, rest, -, rfl⟩ := Context.exists_saved_of_pop hpop
      exact .of_eq rfl
    | unsetAbsent | setConfiguration | declarePresent | declareDefault | scopedGroup | plainGroup
    | pushConfigurations | register | unregister => exact .of_eq rfl

/-- A visit writes the record exactly if it requests a shutdown while the end of a process is at
hand. -/
theorem reports {c c' : Context} {a : Action} {next : Option (List Action)}
    (h : a.visit c = .ok (c', next)) : c.Reports c' ([⟨c, a⟩].filterMap required?) := by
  cases hr : request? ⟨c, a⟩ with
  | none =>
    rw [List.filterMap_cons_none (required?_eq_none hr)]
    exact reports_of_request_eq_none h hr
  | some r =>
    have hvisit := visit_of_request hr
    rw [h] at hvisit
    cases hvisit
    have hrequired : required? ⟨c, a⟩ = (c.current.bind Event.exited?).map (·, r) := by
      rw [required?, hr]
      cases c.current.bind Event.exited? <;> rfl
    rw [List.filterMap_cons, hrequired, Context.noteRequired_eq]
    cases c.current.bind Event.exited? with
    | none => exact .emit c _
    | some p => exact .required c p r

/-- A visit that fails requests nothing. -/
theorem required?_of_error {c : Context} {a : Action} {cause : ActionError}
    (h : a.visit c = .error cause) : required? ⟨c, a⟩ = none := by
  refine required?_eq_none ?_
  cases hr : request? ⟨c, a⟩ with
  | none => rfl
  | some r =>
    have hvisit := visit_of_request hr
    rw [h] at hvisit
    cases hvisit

end Visit

theorem Context.reports_visitDepthFirst (c : Context) (a : Action) :
    c.Reports (c.visitDepthFirst a).1 ((c.trail [a]).filterMap Visit.required?) := by
  have heval : c.Reports (evaluate c a).context
      ((evaluate c a).visits.filterMap Visit.required?) := by
    refine (evaluation_induction (P := fun c _ e =>
      c.Reports e.context (e.visits.filterMap Visit.required?)) ?_ ?_ Visit.reports ?_ ?_).1 c a
    · exact fun c => .of_eq rfl
    · intro c a cause hv
      rw [List.filterMap_cons_none (Visit.required?_of_error hv)]
      exact .of_eq rfl
    · intro c a c' next e hv he
      rw [Evaluation.behind, ← List.singleton_append, List.filterMap_append]
      exact (Visit.reports hv).trans he
    · intro c a l e next he hnext
      unfold Evaluation.andThen
      cases e.failure with
      | some f => exact he
      | none =>
        rw [List.filterMap_append]
        exact he.trans (hnext e.context)
  obtain ⟨configurations, saved, hcontext⟩ := c.fst_visitDepthFirst a
  rw [trail_eq, hcontext]
  exact heval

/-- The visits that carry out some actions report what they request. -/
theorem Carries.reports {c d : Context} {l : List Action} {vs : List Visit} {r : Option Failure}
    (h : Carries c l vs d r) : c.Reports d
      ((vs.flatMap fun v => v.context.trail [v.action]).filterMap Visit.required?) := by
  refine h.composes (R := fun c vs d => c.Reports d (vs.filterMap Visit.required?))
    (fun _ => .of_eq rfl) ?_ Context.reports_visitDepthFirst (fun _ _ => .of_eq rfl)
  intro c d e us vs hus hvs
  rw [List.filterMap_append]
  exact hus.trans hvs

theorem Service.reports_acknowledge (s : Service) (e : Event) :
    s.context.Reports (s.acknowledge e).1.context [] := by
  rcases s.acknowledge_cases e with ⟨_, _, -, -, h⟩ | ⟨_, _, -, -, h⟩ | ⟨-, h⟩ <;> rw [h]
  · exact .note _ fun _ h => nomatch h
  · exact .note _ fun _ h => nomatch h
  · exact .of_eq rfl

theorem Moment.reports (m : Moment) :
    m.before.context.Reports m.after.context (m.visits.filterMap Visit.required?) := by
  cases m with
  | entity s a =>
    show s.context.Reports (s.afterVisit a).context _
    rw [s.context_afterVisit a, visits, roots, List.flatMap_singleton]
    exact s.context.reports_visitDepthFirst a
  | overrun => exact .of_eq rfl
  | dispatch s e =>
    show s.afterTake.context.Reports (s.afterTake.dispatch e).1.context _
    have hack := s.afterTake.reports_acknowledge e
    have hother : ∀ x : Record, x.level = .debug → ∀ p, x ≠ .wasRequired p := by
      rintro x hx p rfl
      cases hx
    rw [visits, roots]
    rcases s.afterTake.dispatch_cases e with
      ⟨_, _, -, -, hd, hruns⟩ | ⟨u, c, r, hu, hcarry, hd, -⟩
    · rw [hd, hruns]
      exact .note _ (hother _ rfl)
    · rw [hu] at hack
      have hhandled := hack.trans hcarry.reports
      rcases hd with hd | hd <;> rw [hd]
      · exact hhandled
      · have hnote := hhandled.trans (.note c (hother (.unhandled e) rfl))
        rwa [List.append_nil] at hnote

theorem Path.reports {s t : Service} {ms : List Moment} (h : Path s ms t) :
    s.context.Reports t.context ((ms.flatMap Moment.visits).filterMap Visit.required?) := by
  induction h with
  | nil => exact .of_eq rfl
  | note hx _ ih => exact (Context.Reports.note _ fun p hp => by rw [hp] at hx; exact hx).trans ih
  | emit _ ih => exact (Context.Reports.emit _ _).trans ih
  | @entity s a _ _ _ ih =>
    rw [List.flatMap_cons, List.filterMap_append]
    exact (Moment.entity s a).reports.trans ih
  | @dispatch s e _ _ _ _ _ ih =>
    rw [List.flatMap_cons, List.filterMap_append]
    exact (Moment.dispatch s e).reports.trans ih
  | @overrun s e _ _ _ _ _ ih =>
    rw [List.flatMap_cons, List.filterMap_append]
    exact (Moment.overrun s e).reports.trans ih

/-! ## Calls -/

/-- With no event at hand before a call, the visits that the log tells of are those of handlers
while the end of a process is dispatched. -/
theorem Moment.filterMap_required? {m : Moment} (h : m.before.context.current = none) :
    m.visits.filterMap Visit.required? = m.required := by
  cases m with
  | entity s a =>
    rw [List.filterMap_eq_nil_iff.mpr]
    · rfl
    · intro v hv
      have hcurrent : v.context.current = none := (current_of_mem_entity hv).trans h
      rw [Visit.required?, hcurrent]
      rfl
  | overrun => rfl
  | dispatch s e =>
    have hall : ∀ v ∈ (dispatch s e).visits, v.required? =
        e.exited?.bind fun p => v.request?.map (p, ·) := by
      intro v hv
      rw [Visit.required?, current_of_mem_dispatch hv]
      rfl
    rw [List.filterMap_congr hall, required]
    cases e.exited? with
    | none => simp
    | some p => simp [List.map_filterMap]

theorem Moment.mem_required_iff {m : Moment} {p r : String} :
    (p, r) ∈ m.required ↔ ∃ s e, m = .dispatch s e ∧ e.exited? = some p ∧
      ∃ v ∈ m.visits, v.request? = some r := by
  cases m with
  | entity | overrun => simp [required]
  | dispatch s e =>
    rw [required]
    cases he : e.exited? with
    | none => simp [he]
    | some q =>
      simp only [List.mem_map, List.mem_filterMap, Prod.mk.injEq]
      constructor
      · rintro ⟨r', ⟨v, hv, hr⟩, rfl, rfl⟩
        exact ⟨s, e, rfl, he, v, hv, hr⟩
      · rintro ⟨_, _, heq, hp, v, hv, hr⟩
        cases heq
        rw [he, Option.some.injEq] at hp
        exact ⟨r, ⟨v, hv, hr⟩, hp, rfl⟩

/-- The requests of all moments, spelled out. -/
theorem exists_required_iff {ms : List Moment} {p : String} :
    (∃ r, (p, r) ∈ ms.flatMap Moment.required) ↔
      ∃ u pid code, .dispatch u (.processExited p pid code) ∈ ms ∧
        ∃ v ∈ (Moment.dispatch u (.processExited p pid code)).visits, ∃ cond reason r,
          v.action = .shutdown cond reason ∧ v.action.mayRun v.context = .ok true ∧
            v.context.value reason = .ok r := by
  constructor
  · rintro ⟨r, hr⟩
    obtain ⟨m, hm, hr⟩ := List.mem_flatMap.mp hr
    obtain ⟨u, e, rfl, he, v, hv, hrequest⟩ := Moment.mem_required_iff.mp hr
    cases e with
    | processExited q pid code =>
      cases he
      obtain ⟨cond, reason, hexec⟩ := Visit.request?_eq_some_iff.mp hrequest
      exact ⟨u, pid, code, hm, v, hv, cond, reason, r, hexec⟩
    | processStarted | shutdown => cases he
  · rintro ⟨u, pid, code, hm, v, hv, cond, reason, r, hexec⟩
    have hrequest := Visit.request?_eq_some_iff.mpr ⟨cond, reason, hexec⟩
    have hr : (p, r) ∈ (Moment.dispatch u (.processExited p pid code)).required :=
      Moment.mem_required_iff.mpr ⟨u, _, rfl, rfl, v, hv, hrequest⟩
    exact ⟨r, List.mem_flatMap.mpr ⟨_, hm, hr⟩⟩

/-- **Who binds the event at hand in a context.**

* `restores`: whatever is done while an event is handled, in any number of levels and also when
  it fails, the event at hand afterwards is the one before.
* `binds`: while an event is handled, operations on the context find it at hand throughout.
* `edits`, `nested`: operations leave the event at hand that they found, and handling an event by
  means of operations is an operation again. -/
structure BindsCurrent (c : Context) : Prop where
  restores : ∀ {α : Type} (e : Event) (f : Context → Context × α),
    (c.whileHandling e f).1.current = c.current
  binds : ∀ e d, Context.Edits { c with current := some e } d → d.current = some e
  edits : ∀ d, c.Edits d → d.current = c.current
  nested : ∀ {α : Type} (e : Event) (f : Context → Context × α),
    (∀ d : Context, d.Edits (f d).1) → c.Edits (c.whileHandling e f).1

/-- **A call and the event at hand**, whatever the answer of the call.

* `after`, `between`: after the call, and between any two moments of it, the event at hand is the
  one from before the call.
* `entity`, `handler`: all actions visited for a description find that one, and all actions
  visited for a handler the event that is dispatched.
* `required`: if there was none, the new records tell the requests for shutdown that handlers
  make while the end of a process is dispatched, in order and each right before its emission.
* `logged`: so the record that a process was required is written exactly if a shutdown is
  executed while the end of that process is dispatched. -/
structure CurrentCall (s : Service) (k : Service.Call) : Prop where
  after : (s.call k).1.context.current = s.context.current
  between : ∀ m ∈ s.moments k, m.before.context.current = s.context.current ∧
    m.after.context.current = s.context.current
  entity : ∀ u a, .entity u a ∈ s.moments k → ∀ v ∈ (Moment.entity u a).visits,
    v.context.current = s.context.current
  handler : ∀ u e, .dispatch u e ∈ s.moments k → ∀ v ∈ (Moment.dispatch u e).visits,
    v.context.current = some e
  required : s.context.current = none → ∃ records,
    (s.call k).1.context.log.toList = s.context.log.toList ++ records ∧
      Tells records ((s.moments k).flatMap Moment.required)
  logged : s.context.current = none → ∀ p,
    (∃ records, (s.call k).1.context.log.toList = s.context.log.toList ++ records ∧
      ∃ x ∈ records, x.level = .info ∧
        x.message = "process[" ++ p ++ "] was required: shutting down launched system") ↔
    ∃ u pid code, .dispatch u (.processExited p pid code) ∈ s.moments k ∧
      ∃ v ∈ (Moment.dispatch u (.processExited p pid code)).visits, ∃ cond reason r,
        v.action = .shutdown cond reason ∧ v.action.mayRun v.context = .ok true ∧
          v.context.value reason = .ok r

theorem Service.currentCall (s : Service) (k : Call) : CurrentCall s k := by
  have hpath := s.path_call k
  obtain ⟨hafter, hbefore⟩ := hpath.current
  have hrequired : s.context.current = none → s.context.Reports (s.call k).1.context
      ((s.moments k).flatMap Moment.required) := by
    intro hnone
    have heq : ((s.moments k).flatMap Moment.visits).filterMap Visit.required? =
        (s.moments k).flatMap Moment.required := by
      rw [List.filterMap_flatMap]
      exact List.flatMap_congr fun m hm =>
        Moment.filterMap_required? ((hbefore m hm).trans hnone)
    rw [← heq]
    exact hpath.reports
  refine
    { after := hafter
      between := fun m hm => ⟨hbefore m hm, m.current_after.trans (hbefore m hm)⟩
      entity := fun u a hm v hv => (Moment.current_of_mem_entity hv).trans (hbefore _ hm)
      handler := fun u e _ v hv => Moment.current_of_mem_dispatch hv
      required := hrequired
      logged := ?_ }
  intro hnone p
  obtain ⟨records, hlog, htells⟩ := hrequired hnone
  rw [← exists_required_iff, ← htells.mem_iff]
  constructor
  · rintro ⟨records', hlog', x, hx, hwords⟩
    rw [hlog, List.append_cancel_left_eq] at hlog'
    rw [hlog', ← Record.eq_wasRequired_iff.mpr hwords]
    exact hx
  · intro hx
    exact ⟨records, hlog, _, hx, Record.eq_wasRequired_iff.mp rfl⟩

/-- **The event at hand is bound exactly while its handlers run.** -/
theorem current_bound : (∀ c, BindsCurrent c) ∧ ∀ s k, CurrentCall s k := by
  refine ⟨fun c => ?_, fun s k => s.currentCall k⟩
  refine
    { restores := fun e f => rfl
      binds := fun e d h => h.current
      edits := fun d h => h.current
      nested := fun e f hf => .handling e (hf _) (.refl _) }

/-- A service with a handler for the end of a process, which requests a shutdown from within a
group and then fails, and a handler for the shutdown, which requests another. -/
def requiringService : Service where
  context := { Context.ofEnvironment .empty with
    handlers := [
      ⟨"exit", .processExited, none, [.group none true
        [.shutdown none (.literal "talker ended")]]⟩,
      ⟨"stop", .shutdownEvent, none, [.shutdown none (.literal "again"),
        .declareArgument none (.literal "required") none none]⟩] }
  maxDispatches := 8
  executed := 0

/-- The end of a process is told for the first shutdown requested and not for the second, and
there is no event at hand after the failure. -/
theorem current_bound_requiringService :
    let exit := Event.processExited "talker" (some 7) (some 1)
    CurrentCall requiringService (.deliver exit) ∧
      (requiringService.call (.deliver exit)).2.isSome = true ∧
      (requiringService.call (.deliver exit)).1.context.current = none ∧
      Tells (requiringService.call (.deliver exit)).1.context.log.toList
        [("talker", "talker ended")] := by
  intro exit
  have hcall : CurrentCall requiringService (.deliver exit) := current_bound.2 _ _
  refine ⟨hcall, by cbv, hcall.after, ?_⟩
  obtain ⟨records, hlog, htells⟩ := hcall.required rfl
  have hrequired : (requiringService.moments (.deliver exit)).flatMap Moment.required =
      [("talker", "talker ended")] := by cbv
  rw [hrequired] at htells
  rw [hlog]
  exact htells

end LaunchPlan
