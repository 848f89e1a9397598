import LaunchPlan.Event
import LaunchPlan.Proofs.Hierarchy

/-! # Which events a handler reacts to

A handler names a class, and reacts to the events whose class is that one or derives from it; a
target leaves those that are about one process.  So the events of a handler are an up-set of the
hierarchy cut down by a process: a handler with a class further up reacts to more events
(`EventHandler.wants_of_derivesFrom`).

Events have built-in classes, and the base of a built-in class is built in.  A class that a program
makes is therefore above no event, even if its name is that of a built-in class
(`EventHandler.wants_eq_false`).
-/
namespace LaunchPlan

namespace Class
variable {c d : Class}

/-- The classes that no program makes. -/
def builtin : List Class :=
  [action, setEnvironmentVariable, unsetEnvironmentVariable, setLaunchConfiguration,
    declareLaunchArgument, resetLaunchConfigurations, logInfo, groupAction,
    pushLaunchConfigurations, popLaunchConfigurations, emitEvent, shutdownAction,
    registerEventHandler, unregisterEventHandler, event, processEvent, processStarted,
    processExited, shutdownEvent]

theorem base_mem_builtin : ∀ c ∈ builtin, ∀ b ∈ c.base?, b ∈ builtin := by decide

/-- What is above a built-in class is built in. -/
theorem Reaches.mem_builtin (h : c.Reaches d) (hc : c ∈ builtin) : d ∈ builtin := by
  induction h with
  | refl => exact hc
  | tail _ hbase ih => exact base_mem_builtin _ ih _ hbase

theorem serial_of_mem_builtin : ∀ c ∈ builtin, c.serial = 0 := by decide

/-- A class that a program makes has a serial number, and so it is not built in. -/
theorem not_mem_builtin (h : c.serial ≠ 0) : c ∉ builtin := fun hc => h (serial_of_mem_builtin c hc)

end Class

theorem Event.toClass_mem_builtin (e : Event) : e.toClass ∈ Class.builtin := by
  cases e with
  | processStarted p pid => exact (by decide : Class.processStarted ∈ Class.builtin)
  | processExited p pid code => exact (by decide : Class.processExited ∈ Class.builtin)
  | shutdown reason bySignal => exact (by decide : Class.shutdownEvent ∈ Class.builtin)

namespace EventHandler
variable {α : Type} {g h : EventHandler α} {e : Event}

/-! ## Which classes have handlers -/

section OfClass
variable {id : String} {c : Class} {actions : List α}

theorem ofClass_eq_ok_iff :
    ofClass id c actions = .ok h ↔ c.Reaches Class.event ∧ h = ⟨id, c, none, actions⟩ := by
  rw [ofClass, ← Class.derivesFrom_iff_reaches]
  split <;> simp [*, eq_comm]

theorem ofClass_eq_error_iff {err : NotAnEventClass} :
    ofClass id c actions = .error err ↔ ¬ c.Reaches Class.event ∧ err = ⟨c⟩ := by
  rw [ofClass, ← Class.derivesFrom_iff_reaches]
  split <;> simp [*, eq_comm]

end OfClass

/-! ## Which events are wanted -/

theorem wants_iff : h.wants e = true ↔
    e.toClass.Reaches h.eventClass ∧ ∀ p ∈ h.target, e.process? = some p := by
  rw [wants, Bool.and_eq_true, Class.derivesFrom_iff_reaches]
  cases h.target <;> simp

/-- **A handler with a class further up reacts to more events**, unless it is about another
process. -/
theorem wants_of_derivesFrom (hclass : h.eventClass.derivesFrom g.eventClass = true)
    (htarget : g.target = none ∨ g.target = h.target) (hwants : h.wants e = true) :
    g.wants e = true := by
  rw [Class.derivesFrom_iff_reaches] at hclass
  obtain ⟨habove, hprocess⟩ := wants_iff.mp hwants
  refine wants_iff.mpr ⟨habove.trans hclass, ?_⟩
  rcases htarget with hnone | hsame
  · simp [hnone]
  · rw [hsame]
    exact hprocess

/-- A handler with a class that a program has made reacts to no event. -/
theorem wants_eq_false (hclass : h.eventClass ∉ Class.builtin) (e : Event) : h.wants e = false := by
  rw [Bool.eq_false_iff, Ne, wants_iff]
  rintro ⟨habove, -⟩
  exact hclass (habove.mem_builtin e.toClass_mem_builtin)

/-- A request to shut down is about no process. -/
theorem wants_shutdown_eq_false {p : String} (htarget : h.target = some p) (reason : String)
    (bySignal : Bool) : h.wants (.shutdown reason bySignal) = false := by
  rw [Bool.eq_false_iff, Ne, wants_iff, htarget]
  rintro ⟨-, hprocess⟩
  cases hprocess p rfl

/-- **The events of a handler**, for a class of any hierarchy that has the built-in classes.

* `untargeted`: without a target, they are those whose class is that of the handler or derives from
  it.
* `targeted`, `shutdown`: a target leaves of these the ones that are about the process, and so no
  request to shut down.
* `mono`: they are among the events of each handler with a class further up that has no target or
  the same one.
* `made`: there are none if the class is made by a program, whatever its name is. -/
structure FollowsClasses (h : EventHandler α) : Prop where
  untargeted : h.target = none → ∀ e, h.wants e = true ↔ e.toClass.Reaches h.eventClass
  targeted (p : String) (e : Event) : (h.withTarget p).wants e = true ↔
    { h with target := none }.wants e = true ∧ e.process? = some p
  shutdown (p reason : String) (bySignal : Bool) :
    (h.withTarget p).wants (.shutdown reason bySignal) = false
  mono (g : EventHandler α) : h.eventClass.derivesFrom g.eventClass = true →
    g.target = none ∨ g.target = h.target → ∀ e, h.wants e = true → g.wants e = true
  made : h.eventClass ∉ Class.builtin → ∀ e, h.wants e = false

theorem followsClasses (h : EventHandler α) : h.FollowsClasses where
  untargeted hnone e := by simp [wants_iff, hnone]
  targeted p e := by simp [wants_iff, withTarget]
  shutdown p := wants_shutdown_eq_false rfl
  mono _ hclass htarget _ := wants_of_derivesFrom hclass htarget
  made := wants_eq_false

end EventHandler

/-- **Handlers follow the hierarchy**: there are handlers for the class of all events and the
classes below it, and a handler selects the events whose class is below its own. -/
theorem handlers_follow_classes {α : Type} :
    (∀ (id : String) (c : Class) (actions : List α),
      (∀ h, EventHandler.ofClass id c actions = .ok h ↔
        c.Reaches Class.event ∧ h = ⟨id, c, none, actions⟩) ∧
      ∀ err, EventHandler.ofClass id c actions = .error err ↔
        ¬ c.Reaches Class.event ∧ err = ⟨c⟩) ∧
    ∀ h : EventHandler α, h.FollowsClasses :=
  ⟨fun _ _ _ => ⟨fun _ => EventHandler.ofClass_eq_ok_iff, fun _ =>
    EventHandler.ofClass_eq_error_iff⟩, EventHandler.followsClasses⟩

section Namesake

/-- A class of events that a program makes, with the name of a built-in one. -/
def shutdownNamesake : Class := .derived 1 "Shutdown" Class.event

/-- A handler with this class. -/
def namesakeHandler : EventHandler Unit := ⟨"h", shutdownNamesake, none, [()]⟩

/-- The class has a handler, which reacts to no request to shut down; the built-in class of actions
with this name has none.  A handler for the ends of a process and one for all events about it agree
on an end. -/
theorem handlers_follow_classes_namesake :
    EventHandler.ofClass "h" shutdownNamesake [()] = .ok namesakeHandler ∧
    namesakeHandler.wants (.shutdown "bye" false) = false ∧
    EventHandler.ofClass "h" Class.shutdownAction [()] = .error ⟨Class.shutdownAction⟩ ∧
    (⟨"p", Class.processEvent, some "worker", [()]⟩ : EventHandler Unit).wants
      (.processExited "worker" none none) = true := by
  obtain ⟨hnew, hevents⟩ := @handlers_follow_classes Unit
  have hderives : shutdownNamesake.Reaches Class.event :=
    Class.derivesFrom_iff_reaches.mp (by decide)
  have hmade : shutdownNamesake ∉ Class.builtin := Class.not_mem_builtin (by decide)
  refine ⟨((hnew "h" _ _).1 _).mpr ⟨hderives, rfl⟩, (hevents namesakeHandler).made hmade _, ?_, ?_⟩
  · exact ((hnew "h" _ _).2 _).mpr ⟨by rw [← Class.derivesFrom_iff_reaches]; decide, rfl⟩
  · exact (hevents ⟨"e", Class.processExited, some "worker", [()]⟩).mono _ (by decide)
      (.inr rfl) (.processExited "worker" none none) (by decide)

end Namesake
end LaunchPlan
