import LaunchPlan.Description.Parser

/-! # Histories of registrations

Tags are registered in one call after the other, and a call may be refused.  This module says what
any sequence of calls leaves, from any registry: the one without tags, the one of the built-in tags
or another one.  The classes may have any bases, and the factories may be anything.

`Call.on_cases` lists all that one call can do.  From it follows `entries_after`, by induction on
the calls: behind the registrations of the start come those of the calls that were accepted, in
their order.  So what is registered stays as it is, and a tag stands for what it was registered for
first.  `Registry.KeepsAccepted` says this as it is seen from outside, by those who ask for tags
and by the reader of descriptions.
-/
namespace LaunchPlan
namespace Registry

variable {φ : Type} {r : Registry φ}

/-! ## One call -/

/-- A call: the tag to register, and the class and the factory to register it for.  A type of
actions is registered by handing over its own class and factory. -/
structure Call (φ : Type) where
  /-- The tag. -/
  tag : String
  /-- The class of the actions. -/
  actionClass : Class
  /-- What makes the actions. -/
  factory : φ

namespace Call
variable {c : Call φ}

/-- The class derives from the class of all actions. -/
def IsOfActions (c : Call φ) : Prop := Class.action ∈ c.actionClass.chain

/-- What is registered by the call if it is accepted. -/
def entry (c : Call φ) : String × Registration φ := (c.tag, ⟨c.actionClass, c.factory⟩)

/-- Makes the call: the answer to it, and the registry that it leaves. -/
def on (c : Call φ) (r : Registry φ) : Except RegistrationError Record × Registry φ :=
  (registration c.tag c.actionClass c.factory).run.run r

/-- The call is accepted. -/
def IsAccepted (c : Call φ) (r : Registry φ) : Prop := ∃ record, (c.on r).1 = .ok record

theorem on_of_not_isOfActions (h : ¬ c.IsOfActions) :
    c.on r = (.error (.notAnAction c.actionClass), r) := by
  rw [IsOfActions, ← Class.derivesFrom_iff] at h
  rw [on, registration, if_neg h]
  rfl

/-- A class of actions is registered unless the tag is taken. -/
theorem on_of_isOfActions (h : c.IsOfActions) :
    c.on r = match r.registrations.get? c.tag with
      | some existing => (.error (.duplicateTag c.tag existing.actionClass), r)
      | none => (.ok (.registered c.tag c.actionClass),
        ⟨r.registrations.insert c.tag c.entry.2⟩) := by
  rw [IsOfActions, ← Class.derivesFrom_iff] at h
  have hlook : StateT.run
      (get : ExceptT RegistrationError (StateM (Registry φ)) (Registry φ)).run r =
        pure (.ok r, r) := rfl
  rw [on, registration, if_pos h, ExceptT.run_bind, StateT.run_bind, hlook, pure_bind]
  dsimp only
  cases r.registrations.get? c.tag <;> rfl

/-- **All that a call can do**: it is refused for its class or for its tag, or the tag is
registered behind all others. -/
theorem on_cases (c : Call φ) (r : Registry φ) :
    (¬ c.IsOfActions ∧ c.on r = (.error (.notAnAction c.actionClass), r)) ∨
    (c.IsOfActions ∧ ∃ existing, r.registrations.get? c.tag = some existing ∧
      c.on r = (.error (.duplicateTag c.tag existing.actionClass), r)) ∨
    (c.IsOfActions ∧ c.tag ∉ r.tags ∧ ∃ left : Registry φ,
      left.registrations.entries = r.registrations.entries ++ [c.entry] ∧
      c.on r = (.ok (.registered c.tag c.actionClass), left)) := by
  by_cases h : c.IsOfActions
  · right
    rw [on_of_isOfActions h]
    cases hget : r.registrations.get? c.tag with
    | some existing => exact .inl ⟨h, existing, rfl, rfl⟩
    | none =>
      have hfree : c.tag ∉ r.tags := OrderedMap.get?_eq_none_iff.mp hget
      exact .inr ⟨h, hfree, _, OrderedMap.entries_insert_of_not_mem hfree, rfl⟩
  · exact .inl ⟨h, on_of_not_isOfActions h⟩

/-- A call is accepted just if its class is one of actions and its tag is free. -/
theorem isAccepted_iff : c.IsAccepted r ↔ c.IsOfActions ∧ c.tag ∉ r.tags := by
  obtain ⟨hclass, hon⟩ | ⟨hclass, existing, hget, hon⟩ | ⟨hclass, hfree, left, -, hon⟩ :=
    on_cases c r
  · simp [IsAccepted, hon, hclass]
  · have htaken : c.tag ∈ r.tags := OrderedMap.mem_keys_of_get? hget
    simp [IsAccepted, hon, htaken]
  · simp [IsAccepted, hon, hclass, hfree]

end Call

/-! ## Calls one after the other -/

/-- The registry that calls leave. -/
def after (r : Registry φ) : List (Call φ) → Registry φ
  | [] => r
  | c :: rest => (c.on r).2.after rest

/-- Those of the calls that are accepted, in their order. -/
def accepted (r : Registry φ) : List (Call φ) → List (Call φ)
  | [] => []
  | c :: rest => match c.on r with
    | (.ok _, left) => c :: left.accepted rest
    | (.error _, left) => left.accepted rest

/-- The calls that register the built-in tags. -/
def builtinCalls : List (Call ActionKind) :=
  ActionKind.all.map fun kind => ⟨kind.tag, kind.toClass, kind⟩

theorem after_append (r : Registry φ) (calls later : List (Call φ)) :
    r.after (calls ++ later) = (r.after calls).after later := by
  induction calls generalizing r with
  | nil => rfl
  | cons c rest ih => exact ih (c.on r).2

/-- **What calls leave**: the registrations of the start, and behind them those of the calls that
are accepted. -/
theorem entries_after (r : Registry φ) (calls : List (Call φ)) :
    (r.after calls).registrations.entries =
      r.registrations.entries ++ (r.accepted calls).map Call.entry := by
  induction calls generalizing r with
  | nil => exact (List.append_nil _).symm
  | cons c rest ih =>
    rw [after, accepted, ih]
    obtain ⟨-, hon⟩ | ⟨-, existing, -, hon⟩ | ⟨-, -, left, hentries, hon⟩ := c.on_cases r
    · rw [hon]
    · rw [hon]
    · rw [hon, hentries, List.append_assoc]
      rfl

/-- What is registered at the start stays registered. -/
theorem get?_after_of_get? {registered : Registration φ} {tag : String} (calls : List (Call φ))
    (h : r.registrations.get? tag = some registered) :
    (r.after calls).registrations.get? tag = some registered := by
  rw [OrderedMap.get?_eq_some_iff] at h ⊢
  rw [entries_after]
  exact List.mem_append_left _ h

/-- What is accepted is registered, and stays so. -/
theorem get?_after_of_accepted {c : Call φ} {calls : List (Call φ)} (later : List (Call φ))
    (h : c ∈ r.accepted calls) :
    (r.after (calls ++ later)).registrations.get? c.tag = some c.entry.2 := by
  rw [after_append]
  refine get?_after_of_get? later ?_
  rw [OrderedMap.get?_eq_some_iff, entries_after]
  exact List.mem_append_right _ (List.mem_map_of_mem h)

theorem tags_after (r : Registry φ) (calls : List (Call φ)) :
    (r.after calls).tags = r.tags ++ (r.accepted calls).map Call.tag := by
  rw [tags, OrderedMap.keys, entries_after, List.map_append, List.map_map]
  rfl

/-- The calls for the built-in tags are all accepted, and leave the registry of these tags. -/
theorem after_builtinCalls : empty.after builtinCalls = builtin ∧
    empty.accepted builtinCalls = builtinCalls := ⟨rfl, rfl⟩

/-! ## What a registry shows -/

/-- A tag stands for a class and a factory: the class is that of the tag, and the factory is the one
that makes its actions. -/
structure StandsFor (r : Registry φ) (tag : String) (actionClass : Class) (factory : φ) : Prop where
  classOf? : r.classOf? tag = some actionClass
  build {α : Type} (make : φ → Except ParseError α) : r.build make tag = make factory

theorem standsFor_iff {tag : String} {actionClass : Class} {factory : φ} :
    r.StandsFor tag actionClass factory ↔
      r.registrations.get? tag = some ⟨actionClass, factory⟩ := by
  constructor
  · rintro ⟨hclass, hbuild⟩
    obtain ⟨registered, hget, rfl⟩ := Option.map_eq_some_iff.mp hclass
    -- the factory can be told from what it makes
    have hfactory := hbuild Except.ok
    rw [build, hget] at hfactory
    cases hfactory
    exact hget
  · intro h
    exact ⟨by rw [Registry.classOf?, h, Option.map_some], fun make => by rw [Registry.build, h]⟩

/-- **What the registry shows that calls leave**, whichever calls these are; `r` is the registry at
the start.

* The next call is accepted just if its class is one of actions and its tag is free.
* A call with another class is refused for it, even if the tag is taken, and changes nothing.
* A call for a tag that is taken is refused with the class of the tag, and changes nothing.
* The tags are those of the start and then those of the accepted calls, in their order.
* No tag occurs twice.
* The tags are those that the registry contains.
* A tag stands for the class and the factory of the call that was accepted for it, whichever calls
  follow.
* A tag of the start stands for what it stood for.
* Any other tag has no class and is unknown. -/
structure KeepsAccepted (r : Registry φ) (calls : List (Call φ)) : Prop where
  accepts_iff (c : Call φ) :
    c.IsAccepted (r.after calls) ↔ c.IsOfActions ∧ c.tag ∉ (r.after calls).tags
  refuses_class (c : Call φ) : ¬ c.IsOfActions →
    c.on (r.after calls) = (.error (.notAnAction c.actionClass), r.after calls)
  refuses_tag (c : Call φ) : c.IsOfActions → c.tag ∈ (r.after calls).tags →
    ∃ existing, (r.after calls).classOf? c.tag = some existing ∧
      c.on (r.after calls) = (.error (.duplicateTag c.tag existing), r.after calls)
  tags : (r.after calls).tags = r.tags ++ (r.accepted calls).map Call.tag
  nodup : (r.after calls).tags.Nodup
  contains_iff (tag : String) : (r.after calls).contains tag = true ↔ tag ∈ (r.after calls).tags
  accepted : ∀ c ∈ r.accepted calls, ∀ later : List (Call φ),
    (r.after (calls ++ later)).StandsFor c.tag c.actionClass c.factory
  start {tag : String} {actionClass : Class} {factory : φ} :
    r.StandsFor tag actionClass factory → (r.after calls).StandsFor tag actionClass factory
  unknown : ∀ tag ∉ (r.after calls).tags, (r.after calls).classOf? tag = none ∧
    ∀ {α : Type} (make : φ → Except ParseError α),
      (r.after calls).build make tag = .error (.unknownTag tag)

theorem keepsAccepted (r : Registry φ) (calls : List (Call φ)) : r.KeepsAccepted calls where
  accepts_iff _ := Call.isAccepted_iff
  refuses_class _ h := Call.on_of_not_isOfActions h
  refuses_tag c hclass htag := by
    obtain ⟨hno, -⟩ | ⟨-, existing, hget, hon⟩ | ⟨-, hfree, -⟩ := c.on_cases (r.after calls)
    · exact absurd hclass hno
    · exact ⟨existing.actionClass, (standsFor_iff.mpr hget).classOf?, hon⟩
    · exact absurd htag hfree
  tags := tags_after r calls
  nodup := (r.after calls).registrations.nodup_keys
  contains_iff tag := OrderedMap.contains_iff_mem_keys _ tag
  accepted _ hc later := standsFor_iff.mpr (get?_after_of_accepted later hc)
  start h := standsFor_iff.mpr (get?_after_of_get? calls (standsFor_iff.mp h))
  unknown tag htag := by
    have hget := OrderedMap.get?_eq_none_iff.mpr htag
    refine ⟨?_, fun make => ?_⟩
    · rw [classOf?, hget, Option.map_none]
    · rw [build, hget]

end Registry

/-- **What is registered first stays.**  Every registry keeps to the calls that were accepted,
whichever calls are made.  The reader of descriptions hands an entity to the factory of the call
that was accepted for its tag.  The built-in tags have been registered in this way, too. -/
theorem registrations_stay :
    (∀ {φ : Type} (r : Registry φ) (calls : List (Registry.Call φ)), r.KeepsAccepted calls) ∧
    (∀ (r : Registry) (calls later : List (Registry.Call ActionKind)) (e : Entity),
      ∀ c ∈ r.accepted calls, e.tag = c.tag → e.toAction (r.after (calls ++ later)) =
        e.make (fun _ => Entity.childActions (r.after (calls ++ later)) e.children) c.factory) ∧
    Registry.empty.after Registry.builtinCalls = Registry.builtin ∧
    Registry.empty.accepted Registry.builtinCalls = Registry.builtinCalls := by
  refine ⟨fun r calls => r.keepsAccepted calls, ?_, Registry.after_builtinCalls⟩
  intro r calls later e c hc htag
  rw [Entity.toAction_eq_build, htag]
  exact ((r.keepsAccepted calls).accepted c hc later).build _

section Mixed
open Registry

/-- A class of messages with bases of its own. -/
def shout : Class := .derived 1 "Shout" (.derived 1 "Say" Class.logInfo)

/-- A call for a tag of its own, one for the same tag, one for a built-in tag, and one with a class
of events. -/
def mixedCalls : List (Call ActionKind) :=
  [⟨"shout", shout, .log⟩, ⟨"shout", Class.groupAction, .group⟩, ⟨"let", Class.logInfo, .log⟩,
    ⟨"let", Class.event, .log⟩]

theorem registrations_stay_mixed :
    builtin.accepted mixedCalls = [⟨"shout", shout, .log⟩] ∧
    (builtin.after mixedCalls).tags = builtin.tags ++ ["shout"] ∧
    (builtin.after mixedCalls).StandsFor "shout" shout .log := by
  have haccepted : builtin.accepted mixedCalls = [⟨"shout", shout, .log⟩] := rfl
  have hkeeps := registrations_stay.1 builtin mixedCalls
  have htags := hkeeps.tags
  have hstands := hkeeps.accepted ⟨"shout", shout, .log⟩
  rw [haccepted] at htags hstands
  exact ⟨haccepted, htags, hstands List.mem_cons_self []⟩

end Mixed
end LaunchPlan
