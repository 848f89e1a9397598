import LaunchPlan.Proofs.Shutdown

/-! # Descriptions one after the other

Including a description is no unit of its own: two descriptions included one after the other go
like the one that has the actions of both.  All that an inclusion carries from one action to the
next is the service itself.  The bound holds for each drain, events that waited before go to the
first drain wherever it stands, and a launch that shuts down in the first description finds the
second one shut down already.

Only the log can tell the two apart.  When the launch shuts down before the end of the first
description, what is left out of each is noted separately, and otherwise at once
(`include_append`).
-/
namespace LaunchPlan

/-- The description with the actions of both. -/
instance : Append Description where
  append d e := ⟨d.actions ++ e.actions⟩

namespace Service

/-- Visits the actions of one list and then, unless this failed, those of another. -/
def visitThen (s : Service) (l m : List Action) : Service × Except ServiceError Unit :=
  match s.visitUntilShutdown l with
  | (t, .ok ()) => t.visitUntilShutdown m
  | (t, .error err) => (t, .error err)

/-- Includes a description and then, unless this failed, another one. -/
def includeThen (s : Service) (d e : Description) : Service × Except ServiceError Unit :=
  match s.includeDescription d with
  | (t, .ok ()) => t.includeDescription e
  | (t, .error err) => (t, .error err)

/-- **What was left out is noted at once or in two parts**; else the services and answers are the
same. -/
inductive NotesApart : Service × Except ServiceError Unit → Service × Except ServiceError Unit →
    Prop
  | same (x) : NotesApart x x
  | apart (t : Service) (n k : Nat) : NotesApart (t.note (.leftOut (n + k)), .ok ())
      ((t.note (.leftOut n)).note (.leftOut k), .ok ())

theorem visitUntilShutdown_of_shutdown {s : Service} (hs : s.context.isShutdown = true)
    (a : Action) (l : List Action) :
    s.visitUntilShutdown (a :: l) = (s.note (.leftOut (l.length + 1)), .ok ()) := by
  rw [visitUntilShutdown, if_pos hs]

/-- **The loop over two lists.** -/
theorem visitUntilShutdown_append (s : Service) (l m : List Action) :
    NotesApart (s.visitUntilShutdown (l ++ m)) (s.visitThen l m) := by
  induction l generalizing s with
  | nil => exact .same _
  | cons a rest ih =>
    cases hs : s.context.isShutdown with
    | true =>
      rw [visitThen, List.cons_append, visitUntilShutdown_of_shutdown hs,
        visitUntilShutdown_of_shutdown hs]
      cases m with
      | nil =>
        rw [List.append_nil]
        exact .same _
      | cons b others =>
        -- the service is still shut down when the second list begins
        dsimp only
        rw [visitUntilShutdown_of_shutdown (s := s.note _) hs, List.length_append,
          Nat.add_right_comm]
        exact .apart s _ _
    | false =>
      rw [visitThen, List.cons_append, visitUntilShutdown, visitUntilShutdown, hs]
      rcases s.visit a with ⟨t, err | ⟨⟩⟩
      · exact .same _
      · exact ih t

/-- The moments of two lists are those of the first, followed by those of the second. -/
theorem includeMoments_append (s : Service) (l m : List Action) :
    s.includeMoments (l ++ m) = s.includeMoments l ++ match s.visitUntilShutdown l with
      | (t, .ok ()) => t.includeMoments m
      | (_, .error _) => [] := by
  induction l generalizing s with
  | nil => rfl
  | cons a rest ih =>
    rw [List.cons_append, includeMoments, includeMoments, visitUntilShutdown]
    cases hs : s.context.isShutdown with
    | true =>
      cases m with
      | nil => rfl
      | cons b others =>
        show [] = (s.note _).includeMoments (b :: others)
        rw [includeMoments, if_pos]
        exact hs
    | false =>
      rcases s.visit a with ⟨t, err | ⟨⟩⟩
      · simp
      · simp [ih t]

end Service

/-- **Including `d ++ e` goes like including `d` and then `e`.**

* `answer`: both answer the same, also with the failure of an action or at the bound.
* `service`: the services in the end differ in their logs only: the context is the same, and as
  many actions were counted.
* `log`: the logs are the same, or they end in what was left out, noted at once and in two parts.
* `moments`: on the way the same actions are visited and the same events dispatched. -/
structure Composes (s : Service) (d e : Description) : Prop where
  answer : (s.includeDescription (d ++ e)).2 = (s.includeThen d e).2
  service : (s.includeDescription (d ++ e)).1.SameButLog (s.includeThen d e).1
  log : (s.includeDescription (d ++ e)).1.context.log = (s.includeThen d e).1.context.log ∨
    ∃ (records : Array Record) (n k : Nat),
      (s.includeDescription (d ++ e)).1.context.log = records.push (.leftOut (n + k)) ∧
      (s.includeThen d e).1.context.log = (records.push (.leftOut n)).push (.leftOut k)
  moments : s.moments (.includeDescription (d ++ e)) =
    s.moments (.includeDescription d) ++ match s.includeDescription d with
      | (t, .ok ()) => t.moments (.includeDescription e)
      | (_, .error _) => []

/-- **Inclusion is compositional.** -/
theorem include_append (s : Service) (d e : Description) : Composes s d e := by
  have hloop : Service.NotesApart (s.includeDescription (d ++ e)) (s.includeThen d e) :=
    s.visitUntilShutdown_append d.actions e.actions
  have hmoments := s.includeMoments_append d.actions e.actions
  generalize hwhole : s.includeDescription (d ++ e) = whole at hloop
  generalize hparts : s.includeThen d e = parts at hloop
  cases hloop with
  | same =>
    exact
      { answer := by rw [hwhole, hparts]
        service := by rw [hwhole, hparts]; exact ⟨_, rfl⟩
        log := by rw [hwhole, hparts]; exact Or.inl rfl
        moments := hmoments }
  | apart t n k =>
    exact
      { answer := by rw [hwhole, hparts]
        service := by rw [hwhole, hparts]; exact ⟨_, rfl⟩
        log := by rw [hwhole, hparts]; exact Or.inr ⟨t.context.log, n, k, rfl, rfl⟩
        moments := hmoments }

/-- A launch that shuts down in the first description leaves out one action of it, and one of the
second. -/
example :
    let s := Service.ofConfig (.ofArguments .empty) .empty
    let d : Description := ⟨[.emit none (.shutdown "done" false), .group none false []]⟩
    let e : Description := ⟨[.pushConfigurations]⟩
    ((s.includeDescription (d ++ e)).1.context.log.back? = some (.leftOut 2)) ∧
      ((s.includeThen d e).1.context.log.back? = some (.leftOut 1)) := by
  constructor
  · cbv
  · cbv

end LaunchPlan
