import LaunchPlan.Proofs.Atomic
import LaunchPlan.Proofs.Scoping

/-! # A plain group only groups

In the list of actions of a group there can stand another group, without a scope and without a
condition.  Its actions might as well stand there themselves.

A `Place` is the position in question, given by all that stands around it.  It can lie under any
number of groups, with conditions and scopes of their own.  A visit of the whole tree comes there
in the context `Place.reach`, or does not come there at all: an enclosing group may be skipped,
and an action on the way may fail.  `Evaluation.Regroups` is the relation of the two evaluations,
with the group at the place and with its actions; it is shown for the innermost enclosing group
and then for one enclosing group after the other (`Evaluation.regroups_fill`), so that nothing
about a place has to be known but what one more group around it does.
-/
namespace LaunchPlan

/-! ## Places -/

/-- **A gap in the list of actions of a group**: the group, but for what stands in the gap. -/
structure Gap where
  condition : Option Condition
  isScoped : Bool
  before : List Action
  after : List Action

namespace Gap

/-- The group with these actions in the gap. -/
def fill (g : Gap) (l : List Action) : Action :=
  .group g.condition g.isScoped (g.before ++ l ++ g.after)

/-- What the group yields before the gap. -/
def opening (g : Gap) : List Action :=
  if g.isScoped then .pushConfigurations :: g.before else g.before

/-- What the group yields behind the gap. -/
def closing (g : Gap) : List Action :=
  if g.isScoped then g.after ++ [.popConfigurations] else g.after

/-- The context in which a visit of the group in `c` comes to the gap.  It does not come there if
the group does not run, or if an action before the gap fails. -/
def come (g : Gap) (c : Context) : Option Context :=
  match (g.fill []).mayRun c, (evaluateEach c g.opening).failure with
  | .ok true, none => some (evaluateEach c g.opening).context
  | _, _ => none

/-- A group that does not run leaves only a record. -/
theorem evaluate_fill_of_skip {g : Gap} {c : Context} {l : List Action}
    (h : (g.fill l).mayRun c = .ok false) :
    evaluate c (g.fill l) = ⟨[⟨c, g.fill l⟩], c.note (.skipped .groupAction), none⟩ := by
  refine evaluate_of_done ?_
  rw [Action.visit, h]
  rfl

/-- A group that runs is evaluated as what stands before, in and behind the gap. -/
theorem evaluate_fill {g : Gap} {c : Context} {l : List Action}
    (h : (g.fill l).mayRun c = .ok true) :
    evaluate c (g.fill l) =
      ((evaluateEach c g.opening).andThen fun d =>
        (evaluateEach d l).andThen fun e => evaluateEach e g.closing).behind ⟨c, g.fill l⟩ := by
  have hlist : evaluateEach c (g.opening ++ (l ++ g.closing)) =
      (evaluateEach c g.opening).andThen fun d =>
        (evaluateEach d l).andThen fun e => evaluateEach e g.closing := by
    simp only [evaluateEach_append]
  rw [← hlist]
  unfold fill at h ⊢
  rw [evaluate_group h]
  cases hs : g.isScoped <;> simp [opening, closing, hs]

end Gap

/-- **A place in the tree of groups**: a gap in the list of a group, with the groups around it. -/
inductive Place where
  /-- A gap in the list of the outermost group. -/
  | gap (g : Gap)
  /-- A place in the action that stands alone in a gap. -/
  | under (g : Gap) (p : Place)

namespace Place

/-- The tree with these actions at the place. -/
def fill : Place → List Action → Action
  | gap g, l => g.fill l
  | under g p, l => g.fill [p.fill l]

/-- The gap at the place, without the groups around. -/
def innermost : Place → Gap
  | gap g => g
  | under _ p => p.innermost

/-- The place as it lies in each of the enclosing groups, the outermost one first. -/
def around : Place → List Place
  | gap g => [gap g]
  | under g p => under g p :: p.around

/-- The context in which a visit of the tree in `c` comes to the place, if it comes there. -/
def reach : Place → Context → Option Context
  | gap g, c => g.come c
  | under g p, c => (g.come c).bind p.reach

/-- The visits made to an action at the place when the tree is visited in `c`. -/
def visitsOf (p : Place) (c : Context) (a : Action) : List Visit :=
  (p.reach c).toList.map (⟨·, a⟩)

theorem visitsOf_gap (g : Gap) (c : Context) (a : Action) :
    (gap g).visitsOf c a = (g.come c).toList.flatMap fun d => [⟨d, a⟩] :=
  List.map_eq_flatMap

theorem visitsOf_under (g : Gap) (p : Place) (c : Context) (a : Action) :
    (under g p).visitsOf c a = (g.come c).toList.flatMap (p.visitsOf · a) := by
  rw [visitsOf, reach]
  cases g.come c with
  | none => rfl
  | some d => rw [Option.bind_some, Option.toList_some, List.flatMap_singleton, visitsOf]

theorem mem_around_self (p : Place) : p ∈ p.around := by
  cases p <;> exact List.mem_cons_self

/-- An action in the list of a group that occurs in a tree stands at a place of the tree. -/
theorem exists_of_within {g : Gap} {x a : Action} (h : Action.Within (g.fill [x]) a) :
    ∃ p : Place, p.innermost = g ∧ p.fill [x] = a := by
  induction h with
  | self =>
    exact ⟨gap g, rfl, rfl⟩
  | @group c cond isScoped actions hc _ ih =>
    obtain ⟨p, hp, rfl⟩ := ih
    obtain ⟨before, after, rfl⟩ := List.append_of_mem hc
    refine ⟨under ⟨cond, isScoped, before, after⟩ p, hp, ?_⟩
    rw [fill, Gap.fill, List.append_assoc, List.singleton_append]

/-- Two actions are the same, or an enclosing group with `l` and with `l'` at the place. -/
def Matches (p : Place) (l l' : List Action) (a a' : Action) : Prop :=
  a' = a ∨ ∃ q ∈ p.around, a = q.fill l ∧ a' = q.fill l'

theorem Matches.under {p : Place} {l l' : List Action} {a a' : Action} (g : Gap)
    (h : p.Matches l l' a a') : (Place.under g p).Matches l l' a a' := by
  rcases h with h | ⟨q, hq, h⟩
  · exact Or.inl h
  · exact Or.inr ⟨q, List.mem_cons_of_mem _ hq, h⟩

theorem matches_fill (p : Place) (l l' : List Action) : p.Matches l l' (p.fill l) (p.fill l') :=
  Or.inr ⟨p, p.mem_around_self, rfl, rfl⟩

end Place

/-! ## Evaluations with the group and without it -/

/-- Visits of the same action, in the sense of `same`, in the same context. -/
def Visit.Matches (same : Action → Action → Prop) (v v' : Visit) : Prop :=
  v'.context = v.context ∧ same v.action v'.action

/-- Failures of the same action, in the sense of `same`, for the same reason. -/
def Failure.Matches (same : Action → Action → Prop) (f f' : Failure) : Prop :=
  f'.cause = f.cause ∧ same f.action f'.action

namespace Evaluation

/-- **The evaluations `e`, with a group in its place, and `e'`, with its actions there instead.**
They come to the same context and fail alike, and `e` makes the visits of `e'` and those to the
group, `removed`. -/
structure Regroups (same : Action → Action → Prop) (removed : List Visit) (e e' : Evaluation) :
    Prop where
  context : e'.context = e.context
  failure : Option.Rel (Failure.Matches same) e.failure e'.failure
  visits : ∃ before after, e.visits = before ++ removed ++ after ∧
    List.Forall₂ (Visit.Matches same) (before ++ after) e'.visits

namespace Regroups
variable {same : Action → Action → Prop} {removed : List Visit} {e e' : Evaluation}

/-- Either both come to their end or both fail. -/
theorem endings (h : Regroups same removed e e') :
    (e.failure = none ∧ e'.failure = none) ∨
      ∃ f f', e.failure = some f ∧ e'.failure = some f' ∧ f.Matches same f' := by
  have hfailure := h.failure
  generalize e.failure = f, e'.failure = f' at hfailure
  cases hfailure with
  | none => exact Or.inl ⟨rfl, rfl⟩
  | some hf => exact Or.inr ⟨_, _, rfl, rfl, hf⟩

theorem mono {same' : Action → Action → Prop} (hs : ∀ {a a'}, same a a' → same' a a')
    (h : Regroups same removed e e') : Regroups same' removed e e' := by
  obtain ⟨hcontext, hfailure, before, after, hvisits, hsame⟩ := h
  refine ⟨hcontext, ?_, before, after, hvisits, hsame.imp fun _ _ hv => ⟨hv.1, hs hv.2⟩⟩
  generalize e.failure = f, e'.failure = f' at hfailure
  cases hfailure with
  | none => exact .none
  | some hf => exact .some ⟨hf.1, hs hf.2⟩

/-- One more visit of an action at the beginning. -/
theorem behind {a a' : Action} (hs : same a a') (h : Regroups same removed e e') (c : Context) :
    Regroups same removed (e.behind ⟨c, a⟩) (e'.behind ⟨c, a'⟩) := by
  obtain ⟨hcontext, hfailure, before, after, hvisits, hsame⟩ := h
  refine ⟨hcontext, hfailure, ⟨c, a⟩ :: before, after, ?_, .cons ⟨rfl, hs⟩ hsame⟩
  rw [Evaluation.behind, hvisits, List.cons_append, List.cons_append]

section Refl
variable (hs : ∀ a, same a a)
include hs

theorem visits_refl (l : List Visit) : List.Forall₂ (Visit.Matches same) l l :=
  List.forall₂_same.mpr fun v _ => ⟨rfl, hs v.action⟩

theorem failure_refl (f : Option Failure) : Option.Rel (Failure.Matches same) f f := by
  cases f with
  | none => exact .none
  | some f => exact .some ⟨rfl, hs f.action⟩

/-- Where the place is not reached, nothing differs. -/
theorem refl (e : Evaluation) : Regroups same [] e e := by
  refine ⟨rfl, failure_refl hs e.failure, e.visits, [], ?_, ?_⟩
  · rw [List.append_nil, List.append_nil]
  · rw [List.append_nil]
    exact visits_refl hs e.visits

/-- What comes before is the same, and does not fail. -/
theorem andThen_left {next next' : Context → Evaluation} (hf : e.failure = none)
    (h : Regroups same removed (next e.context) (next' e.context)) :
    Regroups same removed (e.andThen next) (e.andThen next') := by
  obtain ⟨hcontext, hfailure, before, after, hvisits, hsame⟩ := h
  simp only [andThen, hf]
  refine ⟨hcontext, hfailure, e.visits ++ before, after, ?_, ?_⟩
  · simp only [hvisits, List.append_assoc]
  · rw [List.append_assoc]
    exact List.rel_append (visits_refl hs e.visits) hsame

/-- What follows is the same; after a failure nothing follows. -/
theorem andThen_right (h : Regroups same removed e e') (next : Context → Evaluation) :
    Regroups same removed (e.andThen next) (e'.andThen next) := by
  rcases h.endings with ⟨hf, hf'⟩ | ⟨f, f', hf, hf', -⟩
  · obtain ⟨hcontext, -, before, after, hvisits, hsame⟩ := h
    simp only [andThen, hf, hf', hcontext]
    refine ⟨rfl, failure_refl hs _, before, after ++ (next e.context).visits, ?_, ?_⟩
    · rw [hvisits, List.append_assoc _ after]
    · rw [← List.append_assoc]
      exact List.rel_append hsame (visits_refl hs _)
  · simpa only [andThen, hf, hf'] using h

/-- **One more group around.**  If two lists are evaluated alike in every context, so is a group
with the one and with the other in a gap. -/
theorem fill {g : Gap} {l l' : List Action} {removed : Context → List Visit}
    (hg : same (g.fill l) (g.fill l'))
    (h : ∀ d, Regroups same (removed d) (evaluateEach d l) (evaluateEach d l')) (c : Context) :
    Regroups same ((g.come c).toList.flatMap removed) (evaluate c (g.fill l))
      (evaluate c (g.fill l')) := by
  have hrun' : (g.fill l').mayRun c = (g.fill l).mayRun c := rfl
  have hcome : g.come c = match (g.fill l).mayRun c, (evaluateEach c g.opening).failure with
      | .ok true, none => some (evaluateEach c g.opening).context
      | _, _ => none := rfl
  rw [hcome]
  -- unless the group runs and comes to the gap, the two differ in the group itself only
  cases hrun : (g.fill l).mayRun c with
  | error cause =>
    rw [evaluate_of_error (Action.visit_eq_error_iff.mpr (Or.inl hrun)),
      evaluate_of_error (Action.visit_eq_error_iff.mpr (Or.inl (hrun'.trans hrun)))]
    exact ⟨rfl, .some ⟨rfl, hg⟩, [_], [], rfl, .cons ⟨rfl, hg⟩ .nil⟩
  | ok runs =>
    cases runs with
    | false =>
      rw [Gap.evaluate_fill_of_skip hrun, Gap.evaluate_fill_of_skip (hrun'.trans hrun)]
      exact ⟨rfl, .none, [_], [], rfl, .cons ⟨rfl, hg⟩ .nil⟩
    | true =>
      rw [Gap.evaluate_fill hrun, Gap.evaluate_fill (hrun'.trans hrun)]
      refine behind hg ?_ c
      cases hf : (evaluateEach c g.opening).failure with
      | some f =>
        simp only [andThen, hf]
        exact refl hs _
      | none =>
        simp only [Option.toList_some, List.flatMap_singleton]
        exact andThen_left hs hf (andThen_right hs (h _) _)

end Refl
end Regroups

/-- A plain group is evaluated as its actions, after one visit more. -/
theorem evaluate_plainGroup (c : Context) (l : List Action) :
    evaluate c (.group none false l) = (evaluateEach c l).behind ⟨c, .group none false l⟩ :=
  evaluate_group rfl

/-- **The invariant**, by induction on the groups around the place. -/
theorem regroups_fill (p : Place) (l : List Action) (c : Context) :
    Regroups (p.Matches [.group none false l] l) (p.visitsOf c (.group none false l))
      (evaluate c (p.fill [.group none false l])) (evaluate c (p.fill l)) := by
  induction p generalizing c with
  | gap g =>
    have hs : ∀ a, (Place.gap g).Matches [.group none false l] l a a := fun _ => Or.inl rfl
    have h : ∀ d, Regroups ((Place.gap g).Matches [.group none false l] l)
        [⟨d, .group none false l⟩] (evaluateEach d [.group none false l])
        (evaluateEach d l) := by
      -- at the place itself the group takes one visit and then runs its actions
      intro d
      rw [evaluateEach_singleton, evaluate_plainGroup]
      exact ⟨rfl, Regroups.failure_refl hs _, [], _, rfl, Regroups.visits_refl hs _⟩
    rw [Place.visitsOf_gap]
    exact Regroups.fill hs (Place.matches_fill _ _ _) h c
  | under g p ih =>
    have hs : ∀ a, (Place.under g p).Matches [.group none false l] l a a := fun _ => Or.inl rfl
    have h : ∀ d, Regroups ((Place.under g p).Matches [.group none false l] l)
        (p.visitsOf d (.group none false l)) (evaluateEach d [p.fill [.group none false l]])
        (evaluateEach d [p.fill l]) := by
      intro d
      rw [evaluateEach_singleton, evaluateEach_singleton]
      exact (ih d).mono fun hm => hm.under g
    rw [Place.visitsOf_under]
    exact Regroups.fill hs (Place.matches_fill _ _ _) h c

end Evaluation

/-! ## Visits with the group and without it -/

/-- **The visit of a tree with a plain group at a place**, and with the actions of the group
there instead.

* `context`: both visits end in the same context, log included.
* `trail`: both visit the same actions in the same contexts, an enclosing group being taken for
  what has become of it, but for the visits to the group at the place.
* `answer`: both succeed, and count the same visits but for those to the group, or both fail at
  the same action for the same reason.  If that action is an enclosing group, it is its condition
  that fails. -/
structure OnlyGroups (p : Place) (l : List Action) (c : Context) : Prop where
  context : (c.visitDepthFirst (p.fill l)).1 =
    (c.visitDepthFirst (p.fill [.group none false l])).1
  trail : ∃ before after,
    c.trail [p.fill [.group none false l]] =
        before ++ p.visitsOf c (.group none false l) ++ after ∧
      List.Forall₂ (Visit.Matches (p.Matches [.group none false l] l)) (before ++ after)
        (c.trail [p.fill l])
  answer : match (c.visitDepthFirst (p.fill [.group none false l])).2,
      (c.visitDepthFirst (p.fill l)).2 with
    | .ok n, .ok n' => n = n' + (p.visitsOf c (.group none false l)).length
    | .error f, .error f' => f'.cause = f.cause ∧
      (f'.action = f.action ∨
        ∃ q ∈ p.around, f.action = q.fill [.group none false l] ∧ f'.action = q.fill l ∧
          ∃ d, (c.trail [p.fill [.group none false l]]).getLast? = some ⟨d, f.action⟩ ∧
            f.action.mayRun d = .error f.cause)
    | _, _ => False

/-- A group fails at its condition only. -/
theorem Gap.mayRun_of_error {g : Gap} {c : Context} {l : List Action} {cause : ActionError}
    (h : (g.fill l).visit c = .error cause) : (g.fill l).mayRun c = .error cause := by
  rcases Action.visit_eq_error_iff.mp h with h | ⟨-, h | h⟩
  · exact h
  · cases h
  · exact absurd h id

theorem Place.exists_gap (p : Place) (l : List Action) :
    ∃ (g : Gap) (m : List Action), p.fill l = g.fill m := by
  cases p with
  | gap g => exact ⟨g, l, rfl⟩
  | under g p => exact ⟨g, [p.fill l], rfl⟩

/-- If the action that fails is a group around a place, it is its condition that has no value. -/
theorem Place.mayRun_of_failure {c : Context} {a : Action} {f : Failure} {q : Place}
    {l : List Action} (hf : (evaluate c a).failure = some f) (hq : f.action = q.fill l) :
    ∃ d, (evaluate c a).visits.getLast? = some ⟨d, f.action⟩ ∧
      f.action.mayRun d = .error f.cause := by
  have hend := (tallies_evaluate c a).ending
  rw [hf] at hend
  obtain ⟨before, hvisits, -, hfails⟩ := hend
  obtain ⟨g, m, hg⟩ := q.exists_gap l
  refine ⟨(evaluate c a).context, by rw [hvisits, List.getLast?_concat], ?_⟩
  rw [hq, hg] at hfails ⊢
  exact Gap.mayRun_of_error hfails

theorem onlyGroups (p : Place) (l : List Action) (c : Context) : OnlyGroups p l c := by
  have h := Evaluation.regroups_fill p l c
  obtain ⟨before, after, hvisits, hmatch⟩ := h.visits
  have hvisit := c.visitDepthFirst_eq (p.fill [.group none false l])
  have hvisit' := c.visitDepthFirst_eq (p.fill l)
  refine ⟨?_, ⟨before, after, ?_, ?_⟩, ?_⟩
  · rw [hvisit, hvisit', h.context]
    rcases h.endings with ⟨hf, hf'⟩ | ⟨f, f', hf, hf', -⟩ <;> rw [hf, hf']
  · rw [c.trail_eq, hvisits]
  · rw [c.trail_eq]
    exact hmatch
  · rw [hvisit, hvisit', c.trail_eq]
    rcases h.endings with ⟨hf, hf'⟩ | ⟨f, f', hf, hf', hcause, haction⟩ <;> rw [hf, hf']
    · have hlength := hmatch.length_eq
      simp only [hvisits, List.length_append] at hlength ⊢
      omega
    · refine ⟨hcause, haction.imp_right ?_⟩
      rintro ⟨q, hq, hfill, hfill'⟩
      exact ⟨q, hq, hfill, hfill', Place.mayRun_of_failure hf hfill⟩

/-- **Plain groups only group.**  Every action in the list of a group of a tree stands at a place,
and if it is a group without a scope and without a condition, its actions can take its place. -/
theorem grouping_only_groups :
    (∀ (p : Place) (l : List Action) (c : Context), OnlyGroups p l c) ∧
      ∀ (g : Gap) (x a : Action), Action.Within (g.fill [x]) a →
        ∃ p : Place, p.innermost = g ∧ p.fill [x] = a :=
  ⟨onlyGroups, fun _ _ _ => Place.exists_of_within⟩

/-- A plain group in a scoped one, with an action on either side. -/
example :
    let note := fun name : String => Action.log none [.configuration (Template.literal name) none]
    let p : Place := .under ⟨none, false, [], [note "b"]⟩ (.gap ⟨none, true, [], [note "a"]⟩)
    let l : List Action := [.setConfiguration none (Template.literal "a") (Template.literal "1")]
    let c := (Context.ofEnvironment .empty).setConfiguration "b" "2"
    (c.visitDepthFirst (p.fill [.group none false l])).2 = .ok 8 ∧
      (c.visitDepthFirst (p.fill l)).2 = .ok 7 ∧
      (c.visitDepthFirst (p.fill l)).1.log.toList = [.said "1", .said "2"] := by
  intro note p l c
  refine ⟨?_, ?_, ?_⟩ <;> cbv

end LaunchPlan
