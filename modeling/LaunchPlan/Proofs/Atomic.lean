import Mathlib.Data.List.Forall2
import LaunchPlan.Proofs.Effect

/-! # Actions are atomic

An action that is attempted works on the context step by step, and what it has written stays
when a later step fails.  Yet none is ever left half done: every action looks up all its texts
before it writes anything, so a failure finds the context untouched (`Action.on_attempt`).

What a successful action writes is its own part of the context and nothing else.
`Action.parts` says which parts of a context an action of each kind is about, and
`Action.Changes` what becomes of them; all texts have the values that they had before.  An
action fails exactly if one of its texts has no value, if an argument is missing or if there is
no scope to close (`Action.Fails`).
-/
namespace LaunchPlan

/-! ## Changes of a map -/

namespace OrderedMap
variable {α : Type} {m n : OrderedMap α}

/-- The map `n` is `m` with the value of one name set.  A name that was there keeps its place,
and a new one stands behind all others. -/
structure SetsIn (name : String) (a : α) (m n : OrderedMap α) : Prop where
  value : n.get? name = some a
  others : ∀ x, x ≠ name → n.get? x = m.get? x
  order : n.keys = if name ∈ m.keys then m.keys else m.keys ++ [name]

/-- The map `n` is `m` without one name; the other names keep their order. -/
structure RemovesFrom (name : String) (m n : OrderedMap α) : Prop where
  value : n.get? name = none
  others : ∀ x, x ≠ name → n.get? x = m.get? x
  order : n.keys = m.keys.filter (· ≠ name)

/-- The map consists of these entries: of several with one name the last has the value, and the
first the place. -/
structure ConsistsOf (m : OrderedMap α) (entries : List (String × α)) : Prop where
  value : ∀ x, m.get? x = entries.reverse.lookup x
  order : m.keys = (entries.map Prod.fst).eraseDups

theorem setsIn_insert (m : OrderedMap α) (name : String) (a : α) :
    SetsIn name a m (m.insert name a) where
  value := by rw [get?_insert, if_pos rfl]
  others := fun x hx => by rw [get?_insert, if_neg hx]
  order := keys_insert m name a

theorem removesFrom_erase (m : OrderedMap α) (name : String) :
    RemovesFrom name m (m.erase name) where
  value := by rw [get?_erase, if_pos rfl]
  others := fun x hx => by rw [get?_erase, if_neg hx]
  order := keys_erase m name

/-- Without the name there is nothing to remove. -/
theorem RemovesFrom.refl {name : String} (h : name ∉ m.keys) : RemovesFrom name m m where
  value := get?_eq_none_iff.mpr h
  others := fun _ _ => rfl
  order := (List.filter_eq_self.mpr fun x hx => by
    have hne : x ≠ name := fun heq => h (heq ▸ hx)
    exact decide_eq_true hne).symm

theorem consistsOf_ofList (entries : List (String × α)) : (ofList entries).ConsistsOf entries where
  value := get?_ofList entries
  order := keys_ofList entries

theorem not_mem_keys_iff {name : String} : name ∉ m.keys ↔ m.contains name = false := by
  rw [← contains_iff_mem_keys, Bool.not_eq_true]

end OrderedMap

/-! ## The parts of a context -/

namespace Context

/-- The parts of a context that actions can change.  The event at hand and the reason of the
shutdown are none of them. -/
inductive Part where
  | configurations
  | environment
  | scopes
  | queue
  | handlers

/-- Two contexts agree on a part. -/
def Part.Agree : Part → Context → Context → Prop
  | configurations, c, d => d.configurations = c.configurations
  | environment, c, d => d.environment = c.environment
  | scopes, c, d => d.saved = c.saved
  | queue, c, d => d.pending = c.pending
  | handlers, c, d => d.handlers = c.handlers

theorem Part.agree_refl (p : Part) (c : Context) : p.Agree c c := by
  cases p <;> rfl

/-- From `c` to `d` these records were written. -/
def Writes (c d : Context) (records : List Record) : Prop :=
  d.log.toList = c.log.toList ++ records

theorem writes_nil {c d : Context} (h : d.log = c.log) : c.Writes d [] := by
  rw [Writes, h, List.append_nil]

theorem writes_note (c : Context) (r : Record) : c.Writes (c.note r) [r] := Array.toList_push

/-- The record that precedes a request to shut down, if the end of a process is at hand. -/
def requirement (c : Context) : List Record :=
  match c.current with
  | some (.processExited p _ _) => [.wasRequired p]
  | _ => []

theorem writes_noteRequired (c : Context) : c.Writes c.noteRequired c.requirement := by
  unfold noteRequired requirement
  rcases c.current with _ | _ | _ | _
  · exact writes_nil rfl
  · exact writes_nil rfl
  · exact c.writes_note _
  · exact writes_nil rfl

theorem writes_emit {c d : Context} {records : List Record} (h : c.Writes d records) (e : Event) :
    c.Writes (d.emit e) (records ++ [.emitting e]) := by
  rw [Writes, ← List.append_assoc, ← h]
  exact d.writes_note _

/-- Looking up the entries that a reset keeps gives the value of each name and each value. -/
theorem values_eq_ok_iff {c : Context} {l : List (Template × Template)}
    {entries : List (String × String)} : c.values l = .ok entries ↔
      List.Forall₂ (fun t e => c.value t.1 = .ok e.1 ∧ c.value t.2 = .ok e.2) l entries := by
  induction l generalizing entries with
  | nil =>
    rw [values, List.forall₂_nil_left_iff, Except.ok.injEq]
    exact eq_comm
  | cons t rest ih =>
    obtain ⟨name, value⟩ := t
    rw [List.forall₂_cons_left_iff, values]
    simp only [bind_eq_ok_iff, Except.ok.injEq]
    constructor
    · rintro ⟨n, hn, v, hv, others, hothers, rfl⟩
      exact ⟨(n, v), others, ⟨hn, hv⟩, ih.mp hothers, rfl⟩
    · rintro ⟨e, others, ⟨hn, hv⟩, hothers, rfl⟩
      exact ⟨e.1, hn, e.2, hv, others, ih.mpr hothers, rfl⟩

end Context

/-! ## What an action changes -/

namespace Action

/-- The parts of a context that an action is about. -/
def parts : Action → List Context.Part
  | setVariable .. | unsetVariable .. => [.environment]
  | setConfiguration .. | declareArgument .. | resetConfigurations .. => [.configurations]
  | pushConfigurations => [.scopes]
  | popConfigurations => [.configurations, .scopes]
  | shutdown .. | emit .. => [.queue]
  | register .. | unregister .. => [.handlers]
  | log .. | group .. => []

/-- **What an action changes** from `c` to `d`, and what it writes to the log.  All texts have
their values in `c`. -/
def Changes (c d : Context) : Action → Prop
  | setVariable _ name value => ∃ n v, c.value name = .ok n ∧ c.value value = .ok v ∧
      OrderedMap.SetsIn n v c.environment d.environment ∧ c.Writes d [.settingVariable n v]
  | unsetVariable _ name => ∃ n, c.value name = .ok n ∧
      OrderedMap.RemovesFrom n c.environment d.environment ∧
      c.Writes d (if n ∈ c.environment.keys then [.unsettingVariable n] else [])
  | setConfiguration _ name value => ∃ n v, c.value name = .ok n ∧ c.value value = .ok v ∧
      OrderedMap.SetsIn n v c.configurations d.configurations ∧ c.Writes d []
  | declareArgument _ name default _ => ∃ n, c.value name = .ok n ∧ c.Writes d [] ∧
      ((n ∈ c.configurations.keys ∧ d.configurations = c.configurations) ∨
        (n ∉ c.configurations.keys ∧ ∃ t v, default = some t ∧ c.value t = .ok v ∧
          OrderedMap.SetsIn n v c.configurations d.configurations))
  | resetConfigurations _ keep => ∃ entries,
      List.Forall₂ (fun t e => c.value t.1 = .ok e.1 ∧ c.value t.2 = .ok e.2)
        (keptEntries keep) entries ∧
      d.configurations.ConsistsOf entries ∧ c.Writes d [.resetting d.configurations.size]
  | log _ message => ∃ m, c.value message = .ok m ∧ c.Writes d [.said m]
  | group .. => d = c
  | pushConfigurations => d.saved = c.configurations :: c.saved ∧ c.Writes d []
  | popConfigurations => c.saved = d.configurations :: d.saved ∧ c.Writes d []
  | shutdown _ reason => ∃ r, c.value reason = .ok r ∧
      d.pending = c.pending ++ [.shutdown r false] ∧
      c.Writes d (c.requirement ++ [.emitting (.shutdown r false)])
  | emit _ e => d.pending = c.pending ++ [e] ∧ c.Writes d [.emitting e]
  | register _ h => d.handlers = c.handlers ++ [h] ∧ c.Writes d []
  | unregister _ h => d.handlers = c.handlers.filter (·.id != h.id) ∧
      c.Writes d (if ∃ x ∈ c.handlers, x.id = h.id then []
        else [.wasNotRegistered h.eventClass])

/-- What an action yields: only a group yields anything, and a scope puts its marks around
it. -/
def yield? : Action → Option (List Action)
  | group _ true actions => some (pushConfigurations :: (actions ++ [popConfigurations]))
  | group _ false actions => some actions
  | _ => none

namespace Executes
variable {c d : Context} {a : Action} {next : Option (List Action)}

theorem isRegistered_iff {h : Handler} :
    c.isRegistered h = true ↔ ∃ x ∈ c.handlers, x.id = h.id := by
  simp [Context.isRegistered]

theorem yield?_eq (hx : Executes c a d next) : next = a.yield? := by
  cases hx <;> rfl

theorem changes (hx : Executes c a d next) : a.Changes c d := by
  cases hx with
  | setVariable hn hv => exact ⟨_, _, hn, hv, OrderedMap.setsIn_insert _ _ _, c.writes_note _⟩
  | unsetVariable hn hpresent =>
    refine ⟨_, hn, OrderedMap.removesFrom_erase _ _, ?_⟩
    rw [if_pos ((OrderedMap.contains_iff_mem_keys _ _).mp hpresent)]
    exact c.writes_note _
  | unsetAbsent hn habsent =>
    rw [← OrderedMap.not_mem_keys_iff] at habsent
    refine ⟨_, hn, .refl habsent, ?_⟩
    rw [if_neg habsent]
    exact Context.writes_nil rfl
  | setConfiguration hn hv =>
    exact ⟨_, _, hn, hv, OrderedMap.setsIn_insert _ _ _, Context.writes_nil rfl⟩
  | declarePresent hn hpresent =>
    exact ⟨_, hn, Context.writes_nil rfl,
      Or.inl ⟨(OrderedMap.contains_iff_mem_keys _ _).mp hpresent, rfl⟩⟩
  | declareDefault hn habsent hv =>
    exact ⟨_, hn, Context.writes_nil rfl, Or.inr ⟨OrderedMap.not_mem_keys_iff.mpr habsent, _, _,
      rfl, hv, OrderedMap.setsIn_insert _ _ _⟩⟩
  | resetConfigurations he =>
    exact ⟨_, Context.values_eq_ok_iff.mp he, OrderedMap.consistsOf_ofList _, c.writes_note _⟩
  | log hm => exact ⟨_, hm, c.writes_note _⟩
  | scopedGroup | plainGroup => rfl
  | pushConfigurations => exact ⟨rfl, Context.writes_nil rfl⟩
  | popConfigurations hpop =>
    obtain ⟨s, rest, hs, rfl⟩ := Context.exists_saved_of_pop hpop
    exact ⟨hs, Context.writes_nil rfl⟩
  | shutdown hr =>
    refine ⟨_, hr, ?_, Context.writes_emit c.writes_noteRequired _⟩
    rw [← c.pending_noteRequired]
    rfl
  | emit => exact ⟨rfl, c.writes_note _⟩
  | register => exact ⟨rfl, Context.writes_nil rfl⟩
  | unregister hregistered =>
    refine ⟨rfl, ?_⟩
    rw [if_pos (isRegistered_iff.mp hregistered)]
    exact Context.writes_nil rfl
  | @unregisterAbsent _ h habsent =>
    rw [Bool.eq_false_iff, Ne, isRegistered_iff] at habsent
    refine ⟨(List.filter_eq_self.mpr fun x hx => ?_).symm, ?_⟩
    · exact bne_iff_ne.mpr fun heq => habsent ⟨x, hx, heq⟩
    · rw [if_neg habsent]
      exact c.writes_note _

/-- The parts that an action is not about stay as they are. -/
theorem agree (hx : Executes c a d next) {p : Context.Part} (hp : p ∉ a.parts) :
    p.Agree c d := by
  cases hx with
  | unsetAbsent | declarePresent | scopedGroup | plainGroup => exact p.agree_refl c
  | log | unregisterAbsent => cases p <;> rfl
  | setVariable | unsetVariable =>
    cases p with
    | environment => exact absurd (List.mem_singleton_self _) hp
    | _ => rfl
  | setConfiguration | declareDefault | resetConfigurations =>
    cases p with
    | configurations => exact absurd (List.mem_singleton_self _) hp
    | _ => rfl
  | pushConfigurations =>
    cases p with
    | scopes => exact absurd (List.mem_singleton_self _) hp
    | _ => rfl
  | popConfigurations hpop =>
    obtain ⟨s, rest, -, rfl⟩ := Context.exists_saved_of_pop hpop
    cases p with
    | configurations => exact absurd List.mem_cons_self hp
    | scopes => exact absurd (List.mem_cons_of_mem _ (List.mem_singleton_self _)) hp
    | _ => rfl
  | shutdown =>
    obtain ⟨log, hlog⟩ := c.noteRequired_eq_onLog
    rw [hlog]
    cases p with
    | queue => exact absurd (List.mem_singleton_self _) hp
    | _ => rfl
  | emit =>
    cases p with
    | queue => exact absurd (List.mem_singleton_self _) hp
    | _ => rfl
  | register | unregister =>
    cases p with
    | handlers => exact absurd (List.mem_singleton_self _) hp
    | _ => rfl

end Executes

/-! ## Why an action fails -/

/-- The texts that an action looks up, in order.  The default of an argument is looked up only if
the argument is absent. -/
def texts (c : Context) : Action → List Template
  | setVariable _ name value | setConfiguration _ name value => [name, value]
  | unsetVariable _ name => [name]
  | declareArgument _ name default _ =>
    match c.value name with
    | .ok n => if c.configurations.contains n then [name] else name :: default.toList
    | .error _ => [name]
  | resetConfigurations _ keep => (keptEntries keep).flatMap fun t => [t.1, t.2]
  | log _ message => [message]
  | shutdown _ reason => [reason]
  | _ => []

end Action

/-- The error of the first text that has no value. -/
def Context.firstFault? (c : Context) : List Template → Option ActionError
  | [] => none
  | t :: rest =>
    match c.value t with
    | .ok _ => c.firstFault? rest
    | .error cause => some cause

namespace Context
variable {c : Context} {cause : ActionError}

@[simp] theorem firstFault?_nil : c.firstFault? [] = none := rfl

theorem firstFault?_cons_eq_some_iff {t : Template} {rest : List Template} :
    c.firstFault? (t :: rest) = some cause ↔
      c.value t = .error cause ∨ ∃ v, c.value t = .ok v ∧ c.firstFault? rest = some cause := by
  rw [firstFault?]
  cases c.value t <;> simp

theorem values_eq_error_iff {l : List (Template × Template)} :
    c.values l = .error cause ↔ c.firstFault? (l.flatMap fun t => [t.1, t.2]) = some cause := by
  induction l with
  | nil => simp [values]
  | cons t rest ih =>
    obtain ⟨name, value⟩ := t
    simp [values, bind_eq_error_iff, firstFault?_cons_eq_some_iff, ih]

end Context

namespace Action

/-- An action is refused although all its texts have values: an argument without a default is
missing, or there is no scope to close. -/
def Refused (c : Context) (cause : ActionError) : Action → Prop
  | declareArgument _ name none _ =>
    ∃ n, c.value name = .ok n ∧ n ∉ c.configurations.keys ∧ cause = .missingArgument n
  | popConfigurations => c.saved = [] ∧ cause = .unbalancedScope
  | _ => False

/-- **Why an action fails** whose condition lets it run: the first of its texts without a value
has this error, or the action is refused. -/
def Fails (c : Context) (cause : ActionError) (a : Action) : Prop :=
  c.firstFault? (a.texts c) = some cause ∨ a.Refused c cause

section
variable {c : Context} {cause : ActionError}

theorem declareArgument_eq_error_iff {cond : Option Condition} {name : Template}
    {default description : Option Template} :
    (declareArgument cond name default description).execute c = .error cause ↔
      (declareArgument cond name default description).Fails c cause := by
  rw [execute, bind_eq_error_iff, Fails, texts]
  cases hn : c.value name with
  | error e => cases default <;> simp [Refused, hn, Context.firstFault?_cons_eq_some_iff]
  | ok n =>
    cases hp : c.configurations.contains n with
    | true =>
      have hmem := (OrderedMap.contains_iff_mem_keys _ _).mp hp
      cases default <;> simp [Refused, hn, hp, hmem, Context.firstFault?_cons_eq_some_iff]
    | false =>
      have habsent := OrderedMap.not_mem_keys_iff.mpr hp
      cases default with
      | none =>
        simpa [Refused, hn, hp, habsent, Context.firstFault?_cons_eq_some_iff] using eq_comm
      | some d =>
        simp [Refused, hn, hp, bind_eq_error_iff, Context.firstFault?_cons_eq_some_iff]

/-- **An execution fails for one of these reasons**, and for no other. -/
theorem execute_eq_error_iff {a : Action} : a.execute c = .error cause ↔ a.Fails c cause := by
  cases a with
  | declareArgument => exact declareArgument_eq_error_iff
  | setVariable | setConfiguration | log | shutdown =>
    simp [execute, bind_eq_error_iff, Fails, Refused, texts, Context.firstFault?_cons_eq_some_iff]
  | unsetVariable cond name =>
    rw [execute, bind_eq_error_iff, Fails, texts, Context.firstFault?_cons_eq_some_iff]
    cases hn : c.value name with
    | error e => simp [Refused]
    | ok n => cases hp : c.environment.contains n <;> simp [Refused, hp]
  | resetConfigurations cond keep =>
    simp [execute, bind_eq_error_iff, Fails, Refused, texts, Context.values_eq_error_iff]
  | popConfigurations =>
    cases hs : c.saved with
    | nil =>
      simpa [execute, Fails, Refused, texts, hs, Context.popConfigurations?] using eq_comm
    | cons s rest => simp [execute, Fails, Refused, texts, hs, Context.popConfigurations?]
  | group cond isScoped actions => cases isScoped <;> simp [execute, Fails, Refused, texts]
  | unregister cond h =>
    cases hr : c.isRegistered h <;> simp [execute, Fails, Refused, texts, hr]
  | pushConfigurations | emit | register => simp [execute, Fails, Refused, texts]

/-- A text that has no value is told by the error of its resolution. -/
theorem firstFault?_eq_resolution {ts : List Template} (h : c.firstFault? ts = some cause) :
    ∃ r, cause = .resolution r := by
  induction ts with
  | nil => cases h
  | cons t rest ih =>
    rcases Context.firstFault?_cons_eq_some_iff.mp h with h | ⟨v, -, h⟩
    · exact value_error h
    · exact ih h

/-- Only an argument without a default can be missing. -/
theorem fails_missing_iff {a : Action} {n : String} :
    a.Fails c (.missingArgument n) ↔ ∃ cond name description,
      a = .declareArgument cond name none description ∧ c.value name = .ok n ∧
        n ∉ c.configurations.keys := by
  constructor
  · rintro (h | h)
    · obtain ⟨r, hr⟩ := firstFault?_eq_resolution h
      cases hr
    · unfold Refused at h
      split at h
      · obtain ⟨n', hn, habsent, heq⟩ := h
        cases heq
        exact ⟨_, _, _, rfl, hn, habsent⟩
      · cases h.2
      · exact absurd h id
  · rintro ⟨cond, name, description, rfl, hn, habsent⟩
    exact Or.inr ⟨n, hn, habsent, rfl⟩

end

section Attempt
variable {c d : Context} {a : Action} {cause : ActionError}

theorem attempt_eq_ok_iff {next : Option (List Action)} :
    a.attempt.on c = (d, .ok next) ↔ a.visit c = .ok (d, next) := by
  rw [on_attempt]
  cases a.visit c <;> simp [Context.settle, Prod.ext_iff]

theorem attempt_eq_error_iff :
    a.attempt.on c = (d, .error cause) ↔ d = c ∧ a.visit c = .error cause := by
  rw [on_attempt]
  cases a.visit c <;> simp [Context.settle, eq_comm]

theorem attempt_error_iff : (a.attempt.on c).2 = .error cause ↔ a.visit c = .error cause := by
  rw [on_attempt]
  cases a.visit c <;> simp [Context.settle]

/-- A visit fails at the condition or in the execution. -/
theorem visit_eq_error_iff : a.visit c = .error cause ↔
    a.mayRun c = .error cause ∨ (a.mayRun c = .ok true ∧ a.Fails c cause) := by
  rw [visit, bind_eq_error_iff, ← execute_eq_error_iff]
  simp

end Attempt
end Action

/-- **An attempt on the context `c` is atomic.**

* `failed`: if it fails, at the condition or at any text, the context is the same as before in
  every field, log and queue included.
* `fails_iff`, `missing_iff`, `unbalanced_iff`: these are the reasons for which it fails.
* `skipped`: if the condition does not hold, nothing but a record is left.
* `executed`: if the action executes, it changes what is its own and leaves all other parts of
  the context as they were. -/
structure AtomicAttempt (c : Context) (a : Action) : Prop where
  failed : ∀ d cause, a.attempt.on c = (d, .error cause) → d = c
  fails_iff : ∀ cause, (a.attempt.on c).2 = .error cause ↔
    a.mayRun c = .error cause ∨ (a.mayRun c = .ok true ∧ a.Fails c cause)
  missing_iff : ∀ n, (a.attempt.on c).2 = .error (.missingArgument n) ↔
    a.mayRun c = .ok true ∧ ∃ cond name description,
      a = .declareArgument cond name none description ∧ c.value name = .ok n ∧
        n ∉ c.configurations.keys
  unbalanced_iff : (a.attempt.on c).2 = .error .unbalancedScope ↔
    a = .popConfigurations ∧ c.saved = []
  skipped : a.mayRun c = .ok false → a.attempt.on c = (c.note (.skipped a.toClass), .ok none)
  executed : ∀ d next, a.mayRun c = .ok true → a.attempt.on c = (d, .ok next) →
    a.Changes c d ∧ (∀ p, p ∉ a.parts → p.Agree c d) ∧ d.current = c.current ∧
      d.shutdownReason = c.shutdownReason ∧ next = a.yield?

/-- **Actions are atomic**, and touch only their own part of the context. -/
theorem attempt_atomic (c : Context) (a : Action) : AtomicAttempt c a where
  failed := fun d cause h => (Action.attempt_eq_error_iff.mp h).1
  fails_iff := fun cause => Action.attempt_error_iff.trans Action.visit_eq_error_iff
  missing_iff := by
    intro n
    rw [Action.attempt_error_iff, Action.visit_eq_error_iff, Action.fails_missing_iff,
      or_iff_right]
    -- a condition fails by a text without a value
    intro h
    obtain ⟨r, hr⟩ := Action.mayRun_error h
    cases hr
  unbalanced_iff := by
    rw [Action.attempt_error_iff]
    constructor
    · exact Action.eq_pop_of_unbalanced
    · rintro ⟨rfl, hs⟩
      exact Action.visit_eq_error_iff.mpr (Or.inr ⟨rfl, Or.inr ⟨hs, rfl⟩⟩)
  skipped := fun h => Action.attempt_eq_ok_iff.mpr (by rw [Action.visit, h]; rfl)
  executed := by
    intro d next hrun h
    rcases Action.visit_cases (Action.attempt_eq_ok_iff.mp h) with ⟨hskip, -, -⟩ | ⟨-, hx⟩
    · rw [hrun] at hskip
      cases hskip
    · exact ⟨hx.changes, fun p hp => hx.agree hp, hx.continues.current,
        hx.continues.shutdownReason, hx.yield?_eq⟩

/-- A reset whose second entry has no value leaves the launch configurations alone, although the
first entry was looked up. -/
example :
    let c := (Context.ofEnvironment .empty).setConfiguration "a" "1"
    let reset : Action := .resetConfigurations none (some
      [(.literal "b", .literal "2"), (.literal "c", [.variable (Template.literal "HOME") none])])
    (reset.attempt.on c).1.configurations.entries = [("a", "1")] ∧
      (reset.attempt.on c).2 = .error (.resolution (.undefinedVariable "HOME")) := by
  constructor
  · cbv
  · cbv

end LaunchPlan
