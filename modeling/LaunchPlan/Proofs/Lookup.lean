import LaunchPlan.Proofs.Answer
import LaunchPlan.Template.Basic

/-! # The lookups of a template

A part of a template looks up a name in one of two tables, and all that is said about the one
holds of the other (`Table`).  Names and defaults are templates again, so the names that are
looked up are themselves results of lookups.

`Template.lookups` lists the lookups of a template from left to right: those in a name before the
one of the name, and those in a default behind it, if the name is absent.  The list goes on behind
a lookup that nothing satisfies, so it does not say by itself where the resolution stops.  That is
`resolve_eq_missing_iff`: a template fails exactly with the error of the first lookup that is not
satisfied.  Since such a lookup finds no entry, an error names something that is indeed missing.

A default is left unread when its name is present.  Two templates that differ only in defaults
that are left unread (`Template.Unread`) have the same value or the same error.
-/
namespace LaunchPlan

/-! ## The two tables -/

/-- What a part looks its name up in. -/
inductive Table where
  | configurations
  | environment
  deriving DecidableEq

/-- The entries of a table. -/
def Bindings.table (b : Bindings) : Table → OrderedMap String
  | .configurations => b.configurations
  | .environment => b.environment

/-- The bindings with one more name set in a table. -/
def Bindings.define (b : Bindings) (name value : String) : Table → Bindings
  | .configurations => { b with configurations := b.configurations.insert name value }
  | .environment => { b with environment := b.environment.insert name value }

namespace Table

/-- The part that looks a name up in a table. -/
def part : Table → Template → Option Template → Substitution
  | configurations, name, default => .configuration name default
  | environment, name, default => .variable name default

/-- The error of a lookup that does not find its name. -/
def missing : Table → String → ResolutionError
  | configurations, name => .undefinedConfiguration name
  | environment, name => .undefinedVariable name

theorem missing_inj {table table' : Table} {name name' : String}
    (h : table.missing name = table'.missing name') : table = table' ∧ name = name' := by
  cases table <;> cases table' <;> cases h <;> exact ⟨rfl, rfl⟩

/-- Every error of a resolution is that of a table. -/
theorem exists_missing (err : ResolutionError) :
    ∃ (table : Table) (name : String), table.missing name = err := by
  cases err with
  | undefinedConfiguration name => exact ⟨configurations, name, rfl⟩
  | undefinedVariable name => exact ⟨environment, name, rfl⟩

theorem get?_define (b : Bindings) (name value : String) (table : Table) :
    ((b.define name value table).table table).get? name = some value := by
  cases table <;> exact (OrderedMap.get?_insert _ _ _ _).trans (if_pos rfl)

end Table

namespace Template
variable {b : Bindings} {table : Table} {name rest : Template} {default : Option Template}

/-- **Induction over templates.**  A template is empty, or it begins with a text or with a part
whose name and default are templates of which the property holds. -/
theorem induction {P : Template → Prop} (nil : P [])
    (text : ∀ content rest, P rest → P (.text content :: rest))
    (part : ∀ (table : Table) name default rest, P name → (∀ d, default = some d → P d) →
      P rest → P (table.part name default :: rest)) : ∀ t, P t
  | [] => nil
  | .text content :: rest => text content rest (induction nil text part rest)
  | .configuration name none :: rest =>
    part .configurations name none rest (induction nil text part name) nofun
      (induction nil text part rest)
  | .configuration name (some d) :: rest =>
    part .configurations name (some d) rest (induction nil text part name)
      (fun _ h => Option.some.inj h ▸ induction nil text part d) (induction nil text part rest)
  | .variable name none :: rest =>
    part .environment name none rest (induction nil text part name) nofun
      (induction nil text part rest)
  | .variable name (some d) :: rest =>
    part .environment name (some d) rest (induction nil text part name)
      (fun _ h => Option.some.inj h ▸ induction nil text part d) (induction nil text part rest)

/-! ## Resolving part by part -/

theorem resolve_cons (part : Substitution) :
    resolve b (part :: rest) = part.resolve b >>= fun v => (v ++ ·) <$> resolve b rest := by
  rw [resolve]
  rfl

theorem resolve_text_cons (content : String) :
    resolve b (.text content :: rest) = (content ++ ·) <$> resolve b rest := by
  rw [resolve_cons, Substitution.resolve]
  rfl

/-- Templates one after the other are resolved one after the other. -/
theorem resolve_append (t u : Template) :
    resolve b (t ++ u) = resolve b t >>= fun v => (v ++ ·) <$> resolve b u := by
  induction t with
  | nil =>
    rw [List.nil_append, resolve]
    cases resolve b u with
    | error err => rfl
    | ok v => exact congrArg Except.ok (String.empty_append).symm
  | cons part t ih =>
    rw [List.cons_append, resolve_cons, resolve_cons, ih]
    cases part.resolve b with
    | error err => rfl
    | ok v =>
      cases resolve b t with
      | error err => rfl
      | ok w =>
        cases resolve b u with
        | error err => rfl
        | ok x => exact congrArg Except.ok (String.append_assoc ..).symm

/-- The value that a part has once its name is known. -/
def found (b : Bindings) (table : Table) (default : Option Template) (n : String) :
    Except ResolutionError String :=
  match (b.table table).get? n with
  | some v => .ok v
  | none => resolveDefault b (table.missing n) default

theorem resolve_part : (table.part name default).resolve b =
    resolve b name >>= found b table default := by
  cases table <;> simp only [Table.part, Substitution.resolve] <;> rfl

theorem resolve_part_cons : resolve b (table.part name default :: rest) =
    resolve b name >>= fun n => found b table default n >>= fun v =>
      (v ++ ·) <$> resolve b rest := by
  rw [resolve_cons, resolve_part]
  cases resolve b name <;> rfl

/-- A part alone and without a default has the value that its table has. -/
theorem resolve_bare_eq_ok_iff {v : String} : resolve b [table.part name none] = .ok v ↔
    ∃ n, resolve b name = .ok n ∧ (b.table table).get? n = some v := by
  rw [resolve_part_cons, bind_eq_ok_iff]
  refine exists_congr fun n => and_congr_right fun _ => ?_
  unfold found
  cases (b.table table).get? n with
  | none =>
    constructor
    · intro h
      cases h
    · intro h
      cases h
  | some w =>
    have hw : (Except.ok (w ++ "") : Except ResolutionError String) = .ok v ↔ some w = some v := by
      rw [String.append_empty, Except.ok.injEq, Option.some.injEq]
    exact hw

end Template

/-! ## Lookups -/

/-- A lookup: the table, the name, and whether there is a default if the name is absent. -/
structure Lookup where
  table : Table
  name : String
  hasDefault : Bool
  deriving DecidableEq

namespace Lookup

/-- The lookup finds its name, or else there is a default. -/
def isSatisfied (b : Bindings) (l : Lookup) : Bool :=
  (b.table l.table).contains l.name || l.hasDefault

/-- The error of a lookup that is not satisfied. -/
def error (l : Lookup) : ResolutionError := l.table.missing l.name

/-- What is asked for, whether there is a default or not. -/
def question (l : Lookup) : Table × String := (l.table, l.name)

/-- The lookups of a part, given those in its name and those in its default.  A name without a
value cannot be looked up, and the default is read only if the name is absent. -/
def ofPart (b : Bindings) (table : Table) (name : Except ResolutionError String)
    (hasDefault : Bool) (inName inDefault : List Lookup) : List Lookup :=
  inName ++
    match name with
    | .ok n => ⟨table, n, hasDefault⟩ ::
        if (b.table table).contains n then [] else inDefault
    | .error _ => []

/-- The first lookup that is not satisfied. -/
def firstFailing? (b : Bindings) (ls : List Lookup) : Option Lookup :=
  ls.find? fun l => !l.isSatisfied b

end Lookup

mutual

/-- The lookups of one part. -/
def Substitution.lookups (b : Bindings) : Substitution → List Lookup
  | .text _ => []
  | .configuration name default =>
    Lookup.ofPart b .configurations (Template.resolve b name) default.isSome
      (Template.lookups b name) (Template.lookupsOfDefault b default)
  | .variable name default =>
    Lookup.ofPart b .environment (Template.resolve b name) default.isSome
      (Template.lookups b name) (Template.lookupsOfDefault b default)

/-- **The lookups of a template**, from left to right. -/
def Template.lookups (b : Bindings) : List Substitution → List Lookup
  | [] => []
  | part :: rest => part.lookups b ++ Template.lookups b rest

/-- The lookups of a default that is read. -/
def Template.lookupsOfDefault (b : Bindings) : Option (List Substitution) → List Lookup
  | some default => Template.lookups b default
  | none => []

end

namespace Template
variable {b : Bindings} {table : Table} {name rest : Template} {default : Option Template}

theorem lookups_text_cons (content : String) :
    lookups b (.text content :: rest) = lookups b rest := by
  rw [lookups, Substitution.lookups, List.nil_append]

theorem lookups_part_cons : lookups b (table.part name default :: rest) =
    Lookup.ofPart b table (resolve b name) default.isSome (lookups b name)
      (lookupsOfDefault b default) ++ lookups b rest := by
  cases table <;> rw [lookups, Table.part, Substitution.lookups]

end Template

/-! ## The first lookup that fails -/

namespace Lookup
variable {α β : Type} {b : Bindings} {ls ls' : List Lookup} {answer : Except ResolutionError α}

/-- **The lookups tell the answer** as far as it is an error: it is that of the first lookup that
is not satisfied, and there is none if all are. -/
def Tells (b : Bindings) (ls : List Lookup) (answer : Except ResolutionError α) : Prop :=
  ∀ err, answer = .error err ↔ ∃ l, firstFailing? b ls = some l ∧ l.error = err

theorem firstFailing?_append (ls ls' : List Lookup) :
    firstFailing? b (ls ++ ls') = (firstFailing? b ls).or (firstFailing? b ls') :=
  List.find?_append

namespace Tells

theorem nil (a : α) : Tells b [] (.ok a) := by
  intro err
  simp [firstFailing?]

theorem of_ok {a : α} (h : Tells b ls (.ok a)) : firstFailing? b ls = none := by
  rw [Option.eq_none_iff_forall_ne_some]
  intro l hl
  cases (h l.error).mpr ⟨l, hl, rfl⟩

/-- What follows is asked only if there is an answer so far. -/
theorem bind {f : α → Except ResolutionError β} (h : Tells b ls answer)
    (hf : ∀ a, answer = .ok a → Tells b ls' (f a)) : Tells b (ls ++ ls') (answer >>= f) := by
  intro err
  rw [firstFailing?_append]
  cases answer with
  | ok a =>
    rw [h.of_ok, Option.none_or]
    exact hf a rfl err
  | error err' =>
    obtain ⟨l, hl, hlerr⟩ := (h err').mp rfl
    rw [hl, Option.some_or]
    constructor
    · intro heq
      cases heq
      exact ⟨l, rfl, hlerr⟩
    · rintro ⟨l', hl', hlerr'⟩
      cases hl'
      rw [← hlerr', hlerr]
      rfl

theorem map {f : α → β} (h : Tells b ls answer) : Tells b ls (f <$> answer) := by
  have hbind : Tells b (ls ++ []) (answer >>= fun a => .ok (f a)) :=
    h.bind fun a _ => .nil (f a)
  rw [List.append_nil] at hbind
  cases answer <;> exact hbind

end Tells
end Lookup

namespace Template
variable {b : Bindings}

theorem tells_found {table : Table} {default : Option Template} {n : String}
    (hd : ∀ d, default = some d → Lookup.Tells b (lookups b d) (resolve b d)) :
    Lookup.Tells b (⟨table, n, default.isSome⟩ ::
        if (b.table table).contains n then [] else lookupsOfDefault b default)
      (found b table default n) := by
  unfold found
  cases hn : (b.table table).get? n with
  | some v =>
    have hfound : (b.table table).contains n = true := by rw [OrderedMap.contains, hn]; rfl
    intro err
    simp [Lookup.firstFailing?, Lookup.isSatisfied, hfound]
  | none =>
    have habsent : (b.table table).contains n = false := by rw [OrderedMap.contains, hn]; rfl
    intro err
    cases default with
    | none => simp [Lookup.firstFailing?, Lookup.isSatisfied, Lookup.error, habsent, resolveDefault]
    | some d =>
      have hread := hd d rfl err
      simpa [Lookup.firstFailing?, Lookup.isSatisfied, habsent, lookupsOfDefault, resolveDefault]
        using hread

/-- The lookups of a template tell whether it has a value. -/
theorem tells_resolve (b : Bindings) (t : Template) :
    Lookup.Tells b (lookups b t) (resolve b t) := by
  induction t using Template.induction with
  | nil => exact .nil ""
  | text content rest ih =>
    rw [lookups_text_cons, resolve_text_cons]
    exact ih.map
  | part table name default rest hname hdefault hrest =>
    rw [lookups_part_cons, resolve_cons, resolve_part]
    refine Lookup.Tells.bind (hname.bind ?_) fun v _ => hrest.map
    intro n hn
    rw [hn]
    exact tells_found hdefault

/-- A template fails with the error of a lookup of an absent name, for which there is no default
and before which all lookups are satisfied. -/
theorem resolve_eq_missing_iff {t : Template} {table : Table} {name : String} :
    resolve b t = .error (table.missing name) ↔ name ∉ (b.table table).keys ∧
      ∃ before after, lookups b t = before ++ ⟨table, name, false⟩ :: after ∧
        ∀ l ∈ before, l.isSatisfied b = true := by
  rw [tells_resolve b t]
  simp only [Lookup.firstFailing?, List.find?_eq_some_iff_append, Bool.not_eq_true',
    Bool.not_eq_false']
  constructor
  · rintro ⟨l, ⟨hl, before, after, hsplit, hbefore⟩, hmissing⟩
    obtain ⟨hfound, hdefault⟩ := Bool.or_eq_false_iff.mp hl
    obtain ⟨rfl, rfl⟩ := Table.missing_inj hmissing
    refine ⟨fun hmem => ?_, before, after, by rw [hsplit, ← hdefault], hbefore⟩
    rw [← OrderedMap.contains_iff_mem_keys, hfound] at hmem
    cases hmem
  · rintro ⟨habsent, before, after, hsplit, hbefore⟩
    refine ⟨⟨table, name, false⟩, ⟨?_, before, after, hsplit, hbefore⟩, rfl⟩
    rw [← OrderedMap.contains_iff_mem_keys, Bool.not_eq_true] at habsent
    exact Bool.or_eq_false_iff.mpr ⟨habsent, rfl⟩

/-! ## Defaults that are left unread -/

/-- **The templates differ only in defaults that are left unread.**  A part whose name is present
may have any default, or none, in the other template. -/
inductive Unread (b : Bindings) : Template → Template → Prop
  | nil : Unread b [] []
  | text {content rest rest'} : Unread b rest rest' →
      Unread b (.text content :: rest) (.text content :: rest')
  | bare {table : Table} {name name' rest rest'} : Unread b name name' → Unread b rest rest' →
      Unread b (table.part name none :: rest) (table.part name' none :: rest')
  | read {table : Table} {name name' d d' rest rest'} : Unread b name name' → Unread b d d' →
      Unread b rest rest' →
      Unread b (table.part name (some d) :: rest) (table.part name' (some d') :: rest')
  | present {table : Table} {name name' n default default' rest rest'} : Unread b name name' →
      resolve b name = .ok n → (b.table table).contains n = true → Unread b rest rest' →
      Unread b (table.part name default :: rest) (table.part name' default' :: rest')

/-- No default is evaluated for a name that is present. -/
theorem found_of_contains {table : Table} {n : String} (h : (b.table table).contains n = true)
    (default default' : Option Template) : found b table default' n = found b table default n := by
  obtain ⟨v, hv⟩ := Option.isSome_iff_exists.mp h
  simp only [found, hv]

theorem Unread.resolve_eq {t t' : Template} (h : Unread b t t') : resolve b t' = resolve b t := by
  induction h with
  | nil => rfl
  | text _ ih => rw [resolve_text_cons, resolve_text_cons, ih]
  | bare _ _ hname hrest => rw [resolve_part_cons, resolve_part_cons, hname, hrest]
  | @read table name name' d d' rest rest' _ _ _ hname hd hrest =>
    have hfound : found b table (some d') = found b table (some d) := by
      funext n
      simp only [found, resolveDefault, hd]
    rw [resolve_part_cons, resolve_part_cons, hname, hrest, hfound]
  | present _ hn hpresent _ hname hrest =>
    rw [resolve_part_cons, resolve_part_cons, hname, hrest, hn]
    show (found _ _ _ _ >>= _) = (found _ _ _ _ >>= _)
    rw [found_of_contains hpresent]

/-- What a part asks for. -/
theorem questions_part_cons {table : Table} {name rest : Template} {default : Option Template} :
    (lookups b (table.part name default :: rest)).map Lookup.question =
      (lookups b name).map Lookup.question ++
        (match resolve b name with
          | .ok n => (table, n) :: if (b.table table).contains n then []
              else (lookupsOfDefault b default).map Lookup.question
          | .error _ => []) ++
        (lookups b rest).map Lookup.question := by
  rw [lookups_part_cons, List.map_append]
  unfold Lookup.ofPart
  rw [List.map_append]
  cases resolve b name with
  | error err => rfl
  | ok n =>
    dsimp only
    split <;> rfl

/-- The same names are looked up in the same order. -/
theorem Unread.questions_eq {t t' : Template} (h : Unread b t t') :
    (lookups b t').map Lookup.question = (lookups b t).map Lookup.question := by
  induction h with
  | nil => rfl
  | text _ ih => rw [lookups_text_cons, lookups_text_cons, ih]
  | bare hn _ hname hrest =>
    rw [questions_part_cons, questions_part_cons, hn.resolve_eq, hname, hrest]
  | read hn _ _ hname hd hrest =>
    rw [questions_part_cons, questions_part_cons, hn.resolve_eq, hname, hrest]
    simp only [lookupsOfDefault, hd]
  | present hn hvalue hpresent _ hname hrest =>
    rw [questions_part_cons, questions_part_cons, hn.resolve_eq, hname, hrest, hvalue]
    simp only [hpresent, if_true]

end Template

/-- **The errors of a template are truthful.**

* `missing_iff`: a template fails for a name exactly if this name is absent from its table and its
  lookup is the first that is not satisfied, from left to right, names before defaults.
* `defined`: it no longer fails for the name once the name has a value, whatever this is.
* `unread`: defaults whose names are present are never looked into.  With any others in their
  place, or none, the same names are looked up, and the value or the error is the same. -/
structure Truthful (b : Bindings) (t : Template) : Prop where
  missing_iff : ∀ (table : Table) (name : String),
    Template.resolve b t = .error (table.missing name) ↔ name ∉ (b.table table).keys ∧
      ∃ before after, Template.lookups b t = before ++ ⟨table, name, false⟩ :: after ∧
        ∀ l ∈ before, l.isSatisfied b = true
  defined : ∀ (table : Table) (name value : String),
    Template.resolve b t = .error (table.missing name) →
      Template.resolve (b.define name value table) t ≠ .error (table.missing name)
  unread : ∀ t', Template.Unread b t t' → Template.resolve b t' = Template.resolve b t ∧
    (Template.lookups b t').map Lookup.question = (Template.lookups b t).map Lookup.question

/-- **Resolution errors are truthful.** -/
theorem resolve_truthful (b : Bindings) (t : Template) : Truthful b t where
  missing_iff := fun _ _ => Template.resolve_eq_missing_iff
  defined := by
    intro table name value _ h
    have habsent := (Template.resolve_eq_missing_iff.mp h).1
    rw [← OrderedMap.contains_iff_mem_keys, OrderedMap.contains, table.get?_define] at habsent
    exact habsent rfl
  unread := fun _ h => ⟨h.resolve_eq, h.questions_eq⟩

/-- The name of a variable is looked up before its default, which is read since there is no such
variable; the second part fails as well, but later. -/
example :
    let b : Bindings := ⟨.ofList [("which", "rate")], .empty⟩
    let t : Template :=
      [.variable [.configuration (Template.literal "which") none]
          (some [.configuration (Template.literal "rate") none]),
        .configuration (Template.literal "other") none]
    (Template.lookups b t).map Lookup.question =
        [(.configurations, "which"), (.environment, "rate"), (.configurations, "rate"),
          (.configurations, "other")] ∧
      Template.resolve b t = .error (.undefinedConfiguration "rate") := by
  constructor
  · rfl
  · rfl

end LaunchPlan
