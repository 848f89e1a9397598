import LaunchPlan.Proofs.Atomic

/-! # The registrations that stand

Handlers are registered and unregistered by calls and by actions, any of them as often as one likes.
The context keeps a list of them up to date: a registration goes to the end, and unregistering a
handler closes the gaps that it leaves.

This module looks at the same from the end of the history: a registration stands if no later
operation unregisters the same object (`HandlerEdit.standing`).  The two agree, whatever other
actions come in between (`Context.handlers_after`): one more operation does to what stands what it
does to the list (`HandlerEdit.onList_standing`).  Objects are told apart by their identity, so a
handler that holds the same as another one is not unregistered with it.
-/
namespace LaunchPlan

/-! ## Operations on handlers -/

/-- An operation on the handlers of a context. -/
inductive HandlerEdit where
  | register (h : Handler)
  | unregister (h : Handler)

namespace HandlerEdit

/-- Whether an operation removes the registrations of a handler. -/
def undoes (h : Handler) : HandlerEdit → Bool
  | register _ => false
  | unregister g => h.id == g.id

/-- **The registrations that stand** after some operations: those that no later one removes, in
their order. -/
def standing : List HandlerEdit → List Handler
  | [] => []
  | register h :: later => if later.any (undoes h) then standing later else h :: standing later
  | unregister _ :: later => standing later

/-- What an operation makes of a list of handlers. -/
def onList (l : List Handler) : HandlerEdit → List Handler
  | register h => l ++ [h]
  | unregister g => l.filter (·.id != g.id)

/-- Later operations leave of the registrations those that they do not remove. -/
theorem standing_append (history later : List HandlerEdit) :
    standing (history ++ later) =
      (standing history).filter (fun h => !later.any (undoes h)) ++ standing later := by
  induction history with
  | nil => rfl
  | cons e rest ih =>
    cases e with
    | unregister g => exact ih
    | register h =>
      rw [List.cons_append, standing, standing, List.any_append, ih]
      -- in the end `h` stands if neither what follows here nor what comes later removes it
      by_cases hrest : rest.any (undoes h) = true
      · simp [hrest]
      · by_cases hlater : later.any (undoes h) = true
        · simp [hrest, hlater]
        · simp [hrest, hlater]

/-- **One more operation** does to what stands what it does to a list. -/
theorem onList_standing (history : List HandlerEdit) (e : HandlerEdit) :
    e.onList (standing history) = standing (history ++ [e]) := by
  rw [standing_append]
  cases e with
  | register h => simp [standing, undoes, onList]
  | unregister g => simp [standing, undoes, onList, bne]

/-- A list that is kept up to date holds what stands. -/
theorem foldl_onList_standing (history later : List HandlerEdit) :
    later.foldl (fun l e => e.onList l) (standing history) = standing (history ++ later) := by
  induction later generalizing history with
  | nil => rw [List.foldl_nil, List.append_nil]
  | cons e rest ih =>
    rw [List.foldl_cons, onList_standing, ih, List.append_assoc, List.singleton_append]

theorem standing_map_register (l : List Handler) : standing (l.map register) = l := by
  induction l with
  | nil => rfl
  | cons h rest ih =>
    have hnone : (rest.map register).any (undoes h) = false := by
      simp [List.any_map, Function.comp_def, undoes]
    rw [List.map_cons, standing, hnone, ih]
    rfl

/-- A handler that was registered twice is gone, registered again it is the last, and another one
that holds the same is still there. -/
example :
    let h : Handler := ⟨"h", Class.event, none, []⟩
    let g : Handler := { h with id := "g" }
    standing [register h, register g, register h, unregister h, register h] = [g, h] := rfl

end HandlerEdit

namespace Action

/-- The operation on the handlers that an action is. -/
def handlerEdit? : Action → Option HandlerEdit
  | register _ h => some (.register h)
  | unregister _ h => some (.unregister h)
  | _ => none

end Action

/-! ## One operation on a context -/

namespace Context
variable (c : Context)

/-- The call that registers a handler or unregisters it.  Unregistering answers whether a
registration was removed: whether fewer are left than there were. -/
def editHandlers : HandlerEdit → Context × Option Bool
  | .register h => (c.register h, none)
  | .unregister h =>
    let left := c.unregister h
    (left, some (left.handlers.length < c.handlers.length))

theorem handlers_editHandlers (e : HandlerEdit) :
    (c.editHandlers e).1.handlers = e.onList c.handlers := by
  cases e <;> rfl

/-- The answer that the number of handlers gives is whether the handler was registered. -/
theorem editHandlers_unregister (h : Handler) :
    c.editHandlers (.unregister h) = (c.unregister h, some (c.isRegistered h)) := by
  have hremoved : (c.unregister h).handlers.length < c.handlers.length ↔
      c.isRegistered h = true := by
    rw [unregister, List.length_filter_lt_length_iff_exists, Action.Executes.isRegistered_iff]
    simp
  rw [editHandlers, Bool.eq_iff_iff.mpr (decide_eq_true_iff.trans hremoved)]

/-- The operations on the handlers that an attempt of an action carries out: an action whose
condition does not hold, or has no answer, leaves them alone. -/
def handlerEdits (a : Action) : List HandlerEdit :=
  match a.mayRun c with
  | .ok true => a.handlerEdit?.toList
  | _ => []

theorem handlers_execute_of_not_mem {a : Action} (h : .handlers ∉ a.parts) :
    (c.settle (a.execute c)).1.handlers = c.handlers := by
  cases hx : a.execute c with
  | error cause => rfl
  | ok effect => exact (Action.executes_of_execute hx).agree h

theorem handlers_perform (a : Action) : (a.perform.on c).1.handlers =
    a.handlerEdit?.toList.foldl (fun l e => e.onList l) c.handlers := by
  rw [Action.on_perform]
  cases a with
  | register cond h => rfl
  | unregister cond h =>
    -- it cannot fail, and leaves the same whether the handler was registered or not
    obtain ⟨d, hd⟩ : ∃ d, (Action.unregister cond h).execute c = .ok (d, none) := by
      rw [Action.execute]
      split
      · exact ⟨_, rfl⟩
      · exact ⟨_, rfl⟩
    rw [hd]
    exact (Action.executes_of_execute hd).changes.1
  | _ => exact handlers_execute_of_not_mem c (by simp [Action.parts])

theorem handlers_attempt (a : Action) : (a.attempt.on c).1.handlers =
    (c.handlerEdits a).foldl (fun l e => e.onList l) c.handlers := by
  rw [Action.on_attempt, handlerEdits, Action.visit]
  cases a.mayRun c with
  | error cause => rfl
  | ok runs =>
    cases runs with
    | false => rfl
    | true => exact a.on_perform c ▸ c.handlers_perform a

end Context

/-! ## Any number of operations -/

/-- A step at the handlers of a context: a call, an action that is attempted, or one that is
performed whatever its condition.  Actions of all kinds may come in between. -/
inductive HandlerStep where
  | call (e : HandlerEdit)
  | attempt (a : Action)
  | perform (a : Action)

namespace HandlerStep

/-- The context after a step. -/
def on (c : Context) : HandlerStep → Context
  | call e => (c.editHandlers e).1
  | attempt a => (a.attempt.on c).1
  | perform a => (a.perform.on c).1

/-- The operations on the handlers in a step. -/
def edits (c : Context) : HandlerStep → List HandlerEdit
  | call e => [e]
  | attempt a => c.handlerEdits a
  | perform a => a.handlerEdit?.toList

theorem handlers_on (c : Context) (s : HandlerStep) :
    (s.on c).handlers = (s.edits c).foldl (fun l e => e.onList l) c.handlers := by
  cases s with
  | call e => exact c.handlers_editHandlers e
  | attempt a => exact c.handlers_attempt a
  | perform a => exact c.handlers_perform a

end HandlerStep

namespace Context

/-- The context after some steps. -/
def after (c : Context) (steps : List HandlerStep) : Context := steps.foldl (fun c s => s.on c) c

/-- The operations on the handlers in some steps. -/
def handlerHistory (c : Context) : List HandlerStep → List HandlerEdit
  | [] => []
  | s :: rest => s.edits c ++ (s.on c).handlerHistory rest

/-- The registrations that stand after some steps.  Those from before the steps come first. -/
def standingHandlers (c : Context) (steps : List HandlerStep) : List Handler :=
  HandlerEdit.standing (c.handlers.map .register ++ c.handlerHistory steps)

theorem handlers_after_eq_foldl (c : Context) (steps : List HandlerStep) :
    (c.after steps).handlers =
      (c.handlerHistory steps).foldl (fun l e => e.onList l) c.handlers := by
  induction steps generalizing c with
  | nil => rfl
  | cons s rest ih =>
    rw [handlerHistory, List.foldl_append, ← s.handlers_on]
    exact ih (s.on c)

/-- **The handlers of a context are the registrations that stand.** -/
theorem handlers_after (c : Context) (steps : List HandlerStep) :
    (c.after steps).handlers = c.standingHandlers steps := by
  rw [handlers_after_eq_foldl, standingHandlers, ← HandlerEdit.foldl_onList_standing,
    HandlerEdit.standing_map_register]

/-- **A context keeps its registrations** through some steps.

* `handlers`: its handlers are the registrations that no later operation removes, in the order of
  the registrations and each as often as it was made.
* `answer`: unregistering a handler answers whether a registration of it stands.
* `removal`: all of these go, and all others stay in their order, whatever they hold.
* `handlersFor`: of the registrations that stand, those that want an event react to it, in order. -/
structure KeepsRegistrations (c : Context) (steps : List HandlerStep) : Prop where
  handlers : (c.after steps).handlers = c.standingHandlers steps
  answer : ∀ h, ∃ answer, ((c.after steps).editHandlers (.unregister h)).2 = some answer ∧
    (answer = true ↔ ∃ g ∈ c.standingHandlers steps, g.id = h.id)
  removal : ∀ h, ((c.after steps).editHandlers (.unregister h)).1.handlers =
    (c.standingHandlers steps).filter (·.id ≠ h.id)
  handlersFor : ∀ e, (c.after steps).handlersFor e =
    (c.standingHandlers steps).filter (·.wants e)

end Context

/-- **The registrations that stand are the handlers**, after any calls and actions. -/
theorem standing_registrations (c : Context) (steps : List HandlerStep) :
    c.KeepsRegistrations steps where
  handlers := c.handlers_after steps
  answer := by
    intro h
    rw [Context.editHandlers_unregister, ← c.handlers_after steps]
    exact ⟨_, rfl, Action.Executes.isRegistered_iff⟩
  removal := by
    intro h
    rw [← c.handlers_after steps]
    exact List.filter_congr fun g _ => by rw [decide_not, ← beq_eq_decide, bne]
  handlersFor := by
    intro e
    rw [Context.handlersFor, c.handlers_after]

end LaunchPlan
