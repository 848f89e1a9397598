import LaunchPlan.Action.Visit
import LaunchPlan.Proofs.Answer

/-! # What one action does

`Action.Executes` lists what a successful execution can do, one rule for each way to
succeed; `Action.executes_of_execute` reads the rule off the execution, so that no later
proof opens `Action.execute`.  `Action.visit_cases` adds the condition: an action that may
run executes, and one that may not leaves only a record.

Two consequences are used all over.  An action touches the bookkeeping of a launch in one
way only (`Context.Continues`): the current event and the reason of the shutdown stay, the
log grows, and the queue grows by exactly the events that the new records announce.  And
what an action yields is one lighter than the action itself (`Executes.weight_eq`).
-/
namespace LaunchPlan

/-- The event that a record announces: emitting an event is the only thing that writes one
of these. -/
def Record.emission? : Record → Option Event
  | .emitting e => some e
  | _ => none

/-! ## The bookkeeping -/

namespace Context

/-- From `c` to `d` the log and the queue have grown: what was in them is still there, and
behind it the queue holds, in order, the events that the new records announce. -/
def Grows (c d : Context) : Prop :=
  ∃ records, d.log.toList = c.log.toList ++ records ∧
    d.pending = c.pending ++ records.filterMap Record.emission?

namespace Grows

theorem of_eq {c d : Context} (hl : d.log = c.log) (hp : d.pending = c.pending) : c.Grows d :=
  ⟨[], by simp [hl], by simp [hp]⟩

theorem refl (c : Context) : c.Grows c := of_eq rfl rfl

theorem trans {c d e : Context} (h : c.Grows d) (h' : d.Grows e) : c.Grows e := by
  obtain ⟨r, hlog, hpending⟩ := h
  obtain ⟨r', hlog', hpending'⟩ := h'
  refine ⟨r ++ r', ?_, ?_⟩
  · rw [hlog', hlog, List.append_assoc]
  · rw [hpending', hpending, List.filterMap_append, List.append_assoc]

theorem note (c : Context) {r : Record} (h : r.emission? = none) : c.Grows (c.note r) :=
  ⟨[r], by simp [Context.note], by simp [Context.note, h]⟩

theorem emit (c : Context) (e : Event) : c.Grows (c.emit e) :=
  ⟨[.emitting e], by simp [Context.emit, Context.note],
    by simp [Context.emit, Context.note, Record.emission?]⟩

end Grows

/-- **Going on from `c`, a launch has come to `d`** without handling an event: the event at
hand and the reason of the shutdown are the same, and log and queue have grown. -/
structure Continues (c d : Context) : Prop where
  current : d.current = c.current
  shutdownReason : d.shutdownReason = c.shutdownReason
  grows : c.Grows d

namespace Continues

/-- A change to anything but the bookkeeping. -/
theorem of_eq {c d : Context} (hc : d.current = c.current)
    (hs : d.shutdownReason = c.shutdownReason) (hl : d.log = c.log)
    (hp : d.pending = c.pending) : c.Continues d :=
  ⟨hc, hs, .of_eq hl hp⟩

theorem refl (c : Context) : c.Continues c := of_eq rfl rfl rfl rfl

theorem trans {c d e : Context} (h : c.Continues d) (h' : d.Continues e) : c.Continues e :=
  ⟨h'.current.trans h.current, h'.shutdownReason.trans h.shutdownReason, h.grows.trans h'.grows⟩

theorem note (c : Context) {r : Record} (h : r.emission? = none) : c.Continues (c.note r) :=
  ⟨rfl, rfl, .note c h⟩

theorem emit (c : Context) (e : Event) : c.Continues (c.emit e) := ⟨rfl, rfl, .emit c e⟩

theorem noteRequired (c : Context) : c.Continues c.noteRequired := by
  unfold Context.noteRequired
  split
  · exact note c rfl
  · exact refl c

end Continues

theorem popConfigurations?_of_saved {c : Context} {s : OrderedMap String}
    {rest : List (OrderedMap String)} (h : c.saved = s :: rest) :
    c.popConfigurations? = some { c with configurations := s, saved := rest } := by
  simp only [popConfigurations?, h]

/-- What closing a scope does, if there is one open. -/
theorem exists_saved_of_pop {c c' : Context} (h : c.popConfigurations? = some c') :
    ∃ s rest, c.saved = s :: rest ∧ c' = { c with configurations := s, saved := rest } := by
  cases hs : c.saved with
  | nil => simp [popConfigurations?, hs] at h
  | cons s rest =>
    rw [popConfigurations?_of_saved hs] at h
    cases h
    exact ⟨s, rest, rfl, rfl⟩

theorem saved_noteRequired (c : Context) : c.noteRequired.saved = c.saved := by
  unfold noteRequired
  split <;> rfl

/-- Only the log can tell whether the record was written. -/
theorem noteRequired_eq_onLog (c : Context) : ∃ log, c.noteRequired = { c with log := log } := by
  unfold noteRequired
  split
  · exact ⟨_, rfl⟩
  · exact ⟨c.log, rfl⟩

theorem handlers_noteRequired (c : Context) : c.noteRequired.handlers = c.handlers := by
  unfold noteRequired
  split <;> rfl

theorem pending_noteRequired (c : Context) : c.noteRequired.pending = c.pending := by
  unfold noteRequired
  split <;> rfl

end Context

/-! ## One execution -/

namespace Action

/-- **What a successful execution does.**  The values of all texts are those in the context
that the action finds. -/
inductive Executes (c : Context) : Action → Context → Option (List Action) → Prop
  | setVariable {cond name value n v} : c.value name = .ok n → c.value value = .ok v →
      Executes c (.setVariable cond name value)
        ((c.note (.settingVariable n v)).setVariable n v) none
  | unsetVariable {cond name n} : c.value name = .ok n → c.environment.contains n = true →
      Executes c (.unsetVariable cond name)
        ((c.note (.unsettingVariable n)).unsetVariable n) none
  | unsetAbsent {cond name n} : c.value name = .ok n → c.environment.contains n = false →
      Executes c (.unsetVariable cond name) c none
  | setConfiguration {cond name value n v} : c.value name = .ok n → c.value value = .ok v →
      Executes c (.setConfiguration cond name value) (c.setConfiguration n v) none
  | declarePresent {cond name default description n} : c.value name = .ok n →
      c.configurations.contains n = true →
      Executes c (.declareArgument cond name default description) c none
  | declareDefault {cond name default description n v} : c.value name = .ok n →
      c.configurations.contains n = false → c.value default = .ok v →
      Executes c (.declareArgument cond name (some default) description)
        (c.setConfiguration n v) none
  | resetConfigurations {cond keep entries} : c.values (keptEntries keep) = .ok entries →
      Executes c (.resetConfigurations cond keep)
        ((c.note (.resetting (OrderedMap.ofList entries).size)).resetConfigurations
          (OrderedMap.ofList entries)) none
  | log {cond message m} : c.value message = .ok m →
      Executes c (.log cond message) (c.note (.said m)) none
  | scopedGroup {cond actions} :
      Executes c (.group cond true actions) c
        (some (.pushConfigurations :: (actions ++ [.popConfigurations])))
  | plainGroup {cond actions} : Executes c (.group cond false actions) c (some actions)
  | pushConfigurations : Executes c .pushConfigurations c.pushConfigurations none
  | popConfigurations {c'} : c.popConfigurations? = some c' →
      Executes c .popConfigurations c' none
  | shutdown {cond reason r} : c.value reason = .ok r →
      Executes c (.shutdown cond reason) (c.noteRequired.emit (.shutdown r false)) none
  | emit {cond event} : Executes c (.emit cond event) (c.emit event) none
  | register {cond handler} : Executes c (.register cond handler) (c.register handler) none
  | unregister {cond handler} : c.isRegistered handler = true →
      Executes c (.unregister cond handler) (c.unregister handler) none
  | unregisterAbsent {cond handler} : c.isRegistered handler = false →
      Executes c (.unregister cond handler)
        (c.note (.wasNotRegistered handler.eventClass)) none

/-- A successful execution follows one of the rules. -/
theorem executes_of_execute {c c' : Context} {a : Action} {next : Option (List Action)}
    (h : a.execute c = .ok (c', next)) : Executes c a c' next := by
  cases a with
  | setVariable cond name value =>
    obtain ⟨n, hn, h⟩ := bind_eq_ok_iff.mp h
    obtain ⟨v, hv, h⟩ := bind_eq_ok_iff.mp h
    cases h
    exact .setVariable hn hv
  | unsetVariable cond name =>
    obtain ⟨n, hn, h⟩ := bind_eq_ok_iff.mp h
    split at h <;> cases h
    · exact .unsetVariable hn ‹_›
    · exact .unsetAbsent hn (Bool.eq_false_iff.mpr ‹_›)
  | setConfiguration cond name value =>
    obtain ⟨n, hn, h⟩ := bind_eq_ok_iff.mp h
    obtain ⟨v, hv, h⟩ := bind_eq_ok_iff.mp h
    cases h
    exact .setConfiguration hn hv
  | declareArgument cond name default description =>
    obtain ⟨n, hn, h⟩ := bind_eq_ok_iff.mp h
    split at h
    · cases h
      exact .declarePresent hn ‹_›
    · split at h
      · obtain ⟨v, hv, h⟩ := bind_eq_ok_iff.mp h
        cases h
        exact .declareDefault hn (Bool.eq_false_iff.mpr ‹_›) hv
      · cases h
  | resetConfigurations cond keep =>
    obtain ⟨entries, he, h⟩ := bind_eq_ok_iff.mp h
    cases h
    exact .resetConfigurations he
  | log cond message =>
    obtain ⟨m, hm, h⟩ := bind_eq_ok_iff.mp h
    cases h
    exact .log hm
  | group cond isScoped actions =>
    cases isScoped <;> cases h
    · exact .plainGroup
    · exact .scopedGroup
  | pushConfigurations =>
    cases h
    exact .pushConfigurations
  | popConfigurations =>
    simp only [execute] at h
    split at h <;> cases h
    exact .popConfigurations ‹_›
  | shutdown cond reason =>
    obtain ⟨r, hr, h⟩ := bind_eq_ok_iff.mp h
    cases h
    exact .shutdown hr
  | emit cond event =>
    cases h
    exact .emit
  | register cond handler =>
    cases h
    exact .register
  | unregister cond handler =>
    simp only [execute] at h
    split at h <;> cases h
    · exact .unregister ‹_›
    · exact .unregisterAbsent (Bool.eq_false_iff.mpr ‹_›)

/-- Each of the rules is a successful execution. -/
theorem execute_of_executes {c d : Context} {a : Action} {next : Option (List Action)}
    (h : Executes c a d next) : a.execute c = .ok (d, next) := by
  cases h with
  | popConfigurations hpop => simp [execute, hpop]
  | scopedGroup | plainGroup | pushConfigurations | emit | register => rfl
  | _ => simp_all [execute, bind, Except.bind]

/-- **One visit**, if it succeeds: the action is skipped and only a record is left, or it
executes. -/
theorem visit_cases {c c' : Context} {a : Action} {next : Option (List Action)}
    (h : a.visit c = .ok (c', next)) :
    (a.mayRun c = .ok false ∧ c' = c.note (.skipped a.toClass) ∧ next = none) ∨
      (a.mayRun c = .ok true ∧ Executes c a c' next) := by
  obtain ⟨runs, hruns, h⟩ := bind_eq_ok_iff.mp h
  cases runs with
  | false =>
    cases h
    exact Or.inl ⟨hruns, rfl, rfl⟩
  | true => exact Or.inr ⟨hruns, executes_of_execute h⟩

/-- Only groups yield actions, and they leave the context alone. -/
theorem group_of_yield {c c' : Context} {a : Action} {next : List Action}
    (h : a.visit c = .ok (c', some next)) :
    c' = c ∧ ∃ cond isScoped actions, a = .group cond isScoped actions ∧
      next = if isScoped then .pushConfigurations :: (actions ++ [.popConfigurations])
        else actions := by
  rcases visit_cases h with ⟨-, -, hnone⟩ | ⟨-, hx⟩
  · cases hnone
  · cases hx with
    | scopedGroup => exact ⟨rfl, _, true, _, rfl, rfl⟩
    | plainGroup => exact ⟨rfl, _, false, _, rfl, rfl⟩

/-! ## Failures -/

theorem value_error {c : Context} {t : Template} {cause : ActionError}
    (h : c.value t = .error cause) : ∃ r, cause = .resolution r := by
  unfold Context.value at h
  cases hr : Template.resolve c.toBindings t with
  | error r =>
    rw [hr] at h
    cases h
    exact ⟨r, rfl⟩
  | ok v =>
    rw [hr] at h
    cases h

/-- Values depend on what texts are resolved against, and on nothing else. -/
theorem values_congr {c d : Context} (h : d.toBindings = c.toBindings)
    (l : List (Template × Template)) : d.values l = c.values l := by
  have hvalue : ∀ t, d.value t = c.value t := by
    intro t
    rw [Context.value, h, Context.value]
  induction l with
  | nil => rfl
  | cons entry rest ih => rw [Context.values, Context.values, hvalue, hvalue, ih]

theorem values_error {c : Context} {l : List (Template × Template)} {cause : ActionError}
    (h : c.values l = .error cause) : ∃ r, cause = .resolution r := by
  induction l with
  | nil => cases h
  | cons e rest ih =>
    rcases bind_eq_error_iff.mp h with h | ⟨n, -, h⟩
    · exact value_error h
    rcases bind_eq_error_iff.mp h with h | ⟨v, -, h⟩
    · exact value_error h
    rcases bind_eq_error_iff.mp h with h | ⟨others, -, h⟩
    · exact ih h
    · cases h

/-- **Why an execution fails**: a text does not resolve, an argument without a default has no
value, or there is no scope to close. -/
theorem execute_error {c : Context} {a : Action} {cause : ActionError}
    (h : a.execute c = .error cause) :
    (∃ r, cause = .resolution r) ∨
      (∃ cond name description n, a = .declareArgument cond name none description ∧
        c.value name = .ok n ∧ c.configurations.contains n = false ∧
        cause = .missingArgument n) ∨
      (a = .popConfigurations ∧ c.saved = [] ∧ cause = .unbalancedScope) := by
  cases a with
  | setVariable cond name value | setConfiguration cond name value =>
    rcases bind_eq_error_iff.mp h with h | ⟨n, -, h⟩
    · exact Or.inl (value_error h)
    rcases bind_eq_error_iff.mp h with h | ⟨v, -, h⟩
    · exact Or.inl (value_error h)
    · cases h
  | unsetVariable cond name =>
    rcases bind_eq_error_iff.mp h with h | ⟨n, -, h⟩
    · exact Or.inl (value_error h)
    · split at h <;> cases h
  | declareArgument cond name default description =>
    rcases bind_eq_error_iff.mp h with h | ⟨n, hn, h⟩
    · exact Or.inl (value_error h)
    split at h
    · cases h
    split at h
    · rcases bind_eq_error_iff.mp h with h | ⟨v, -, h⟩
      · exact Or.inl (value_error h)
      · cases h
    · cases h
      exact Or.inr (Or.inl ⟨cond, name, description, n, rfl, hn, Bool.eq_false_iff.mpr ‹_›, rfl⟩)
  | resetConfigurations cond keep =>
    rcases bind_eq_error_iff.mp h with h | ⟨entries, -, h⟩
    · exact Or.inl (values_error h)
    · cases h
  | log cond message =>
    rcases bind_eq_error_iff.mp h with h | ⟨m, -, h⟩
    · exact Or.inl (value_error h)
    · cases h
  | group cond isScoped actions => cases isScoped <;> cases h
  | popConfigurations =>
    simp only [execute] at h
    split at h <;> cases h
    rename_i hpop
    refine Or.inr (Or.inr ⟨rfl, ?_, rfl⟩)
    cases hs : c.saved with
    | nil => rfl
    | cons s rest =>
      rw [Context.popConfigurations?_of_saved hs] at hpop
      cases hpop
  | shutdown cond reason =>
    rcases bind_eq_error_iff.mp h with h | ⟨r, -, h⟩
    · exact Or.inl (value_error h)
    · cases h
  | unregister cond handler =>
    simp only [execute] at h
    split at h <;> cases h
  | pushConfigurations | emit | register => cases h

/-- A condition fails only because its expression does not resolve. -/
theorem mayRun_error {c : Context} {a : Action} {cause : ActionError}
    (h : a.mayRun c = .error cause) : ∃ r, cause = .resolution r := by
  unfold mayRun at h
  split at h
  · cases h
  · rename_i condition _
    cases hc : condition.holds c.toBindings with
    | error r =>
      rw [hc] at h
      cases h
      exact ⟨r, rfl⟩
    | ok b =>
      rw [hc] at h
      cases h

/-- Only closing a scope can find none open. -/
theorem eq_pop_of_unbalanced {c : Context} {a : Action}
    (h : a.visit c = .error .unbalancedScope) : a = .popConfigurations ∧ c.saved = [] := by
  rcases bind_eq_error_iff.mp h with h | ⟨runs, -, h⟩
  · obtain ⟨r, hr⟩ := mayRun_error h
    cases hr
  · split at h
    · rcases execute_error h with ⟨r, hr⟩ | ⟨_, _, _, n, -, -, -, hn⟩ | ⟨ha, hs, -⟩
      · cases hr
      · cases hn
      · exact ⟨ha, hs⟩
    · cases h

/-! ## The weight of what is yielded -/

theorem weight_pos (a : Action) : 0 < a.weight := by
  cases a with
  | group cond isScoped actions =>
    rw [weight_group]
    split <;> omega
  | _ => simp [weight]

namespace Executes
variable {c c' : Context} {a : Action} {next : Option (List Action)}

/-- An action is by one heavier than what it yields. -/
theorem weight_eq (h : Executes c a c' next) : a.weight = 1 + totalWeight (next.getD []) := by
  cases h with
  | scopedGroup =>
    simp only [weight_group, Option.getD_some, totalWeight_cons, totalWeight_append,
      totalWeight_nil, weight_push, weight_pop, if_true]
    omega
  | plainGroup => simp [weight_group]
  | _ => simp [weight]

/-! ## The frame of an execution -/

theorem continues (h : Executes c a c' next) : c.Continues c' := by
  cases h with
  | setVariable | unsetVariable | resetConfigurations =>
    exact (Context.Continues.note c rfl).trans (.of_eq rfl rfl rfl rfl)
  | unsetAbsent | declarePresent | scopedGroup | plainGroup => exact .refl c
  | setConfiguration | declareDefault | pushConfigurations | register | unregister =>
    exact .of_eq rfl rfl rfl rfl
  | popConfigurations hpop =>
    obtain ⟨s, rest, -, rfl⟩ := Context.exists_saved_of_pop hpop
    exact .of_eq rfl rfl rfl rfl
  | log | unregisterAbsent => exact .note c rfl
  | shutdown => exact (Context.Continues.noteRequired c).trans (.emit _ _)
  | emit => exact .emit c _

end Executes

/-- The handlers registered afterwards were registered before, or by the action. -/
theorem Executes.mem_handlers {c c' : Context} {a : Action} {next : Option (List Action)}
    {h : Handler} (hx : Executes c a c' next) (hh : h ∈ c'.handlers) :
    h ∈ c.handlers ∨ ∃ cond, a = .register cond h := by
  cases hx with
  | @register cond handler =>
    rcases List.mem_append.mp hh with hh | hh
    · exact Or.inl hh
    · rw [List.mem_singleton] at hh
      exact Or.inr ⟨cond, by rw [hh]⟩
  | unregister => exact Or.inl (List.mem_filter.mp hh).1
  | popConfigurations hpop =>
    obtain ⟨s, rest, -, rfl⟩ := Context.exists_saved_of_pop hpop
    exact Or.inl hh
  | shutdown =>
    refine Or.inl ?_
    rw [← Context.handlers_noteRequired c]
    exact hh
  | _ => exact Or.inl hh

/-- Only the two actions that save and restore the launch configurations touch what is
saved. -/
theorem Executes.saved_eq {c c' : Context} {a : Action} {next : Option (List Action)}
    (hx : Executes c a c' next) (hpush : a ≠ .pushConfigurations) (hpop : a ≠ .popConfigurations) :
    c'.saved = c.saved := by
  cases hx with
  | pushConfigurations => exact absurd rfl hpush
  | popConfigurations => exact absurd rfl hpop
  | shutdown => exact Context.saved_noteRequired c
  | _ => rfl

theorem continues_of_visit {c c' : Context} {a : Action} {next : Option (List Action)}
    (h : a.visit c = .ok (c', next)) : c.Continues c' := by
  rcases visit_cases h with ⟨-, rfl, -⟩ | ⟨-, h⟩
  · exact .note c rfl
  · exact h.continues

end Action
end LaunchPlan
