import LaunchPlan.Proofs.Atomic
import LaunchPlan.Proofs.Lookup

/-! # A reset is simultaneous

A reset looks up the names and values to keep one after the other, but all of them in the
configurations that it is about to replace, and it builds the new ones aside.  So an entry never
sees what another one sets, even when its texts mention the other's name: two configurations can
be exchanged, and keeping each with its own value changes nothing.

Entries may resolve to one name.  The new configurations are those of setting the entries one
after the other in an empty map (`OrderedMap.ConsistsOf`): of several entries for a name the last
has the value, and the first the place.

If an entry has no value, nothing has been touched by then.  The error is that of the first lookup
that fails when the texts of all entries stand one after the other, each name before its value.
-/
namespace LaunchPlan

/-- Of two lists that are related item by item, each item of the one is related to one of the
other. -/
theorem exists_mem_of_forall₂ {α β : Type} {R : α → β → Prop} {l : List α} {m : List β}
    (h : List.Forall₂ R l m) : ∀ a ∈ l, ∃ b ∈ m, R a b := by
  induction h with
  | nil => exact fun _ ha => absurd ha List.not_mem_nil
  | @cons a b _ _ hab _ ih =>
    refine List.forall_mem_cons.mpr ⟨⟨b, List.mem_cons_self, hab⟩, fun a' ha' => ?_⟩
    obtain ⟨b', hb', hab'⟩ := ih a' ha'
    exact ⟨b', List.mem_cons_of_mem _ hb', hab'⟩

namespace OrderedMap
variable {α : Type} {m : OrderedMap α} {entries : List (String × α)}

/-- **What a map consists of**, entry by entry: the names are those of the entries, in the order
in which they occur first, and each has the value of its last entry. -/
structure Collects (m : OrderedMap α) (entries : List (String × α)) : Prop where
  mem_keys_iff : ∀ name, name ∈ m.keys ↔ ∃ e ∈ entries, e.1 = name
  last : ∀ before e after, entries = before ++ e :: after → (∀ x ∈ after, x.1 ≠ e.1) →
    m.get? e.1 = some e.2
  order : m.keys = (entries.map Prod.fst).eraseDups

theorem ConsistsOf.collects (h : m.ConsistsOf entries) : m.Collects entries where
  mem_keys_iff := by
    intro name
    rw [h.order, List.mem_eraseDups, List.mem_map]
  last := by
    intro before e after hsplit hlast
    rw [h.value, List.lookup_eq_some_iff]
    refine ⟨after.reverse, before.reverse, by simp [hsplit], ?_⟩
    intro x hx
    exact bne_iff_ne.mpr (hlast x (List.mem_reverse.mp hx)).symm
  order := h.order

/-- A value comes from an entry. -/
theorem ConsistsOf.mem_of_get? (h : m.ConsistsOf entries) {name : String} {a : α}
    (ha : m.get? name = some a) : (name, a) ∈ entries := by
  rw [h.value, List.lookup_eq_some_iff] at ha
  obtain ⟨before, after, hsplit, -⟩ := ha
  rw [← List.mem_reverse, hsplit]
  exact List.mem_append_right _ List.mem_cons_self

end OrderedMap

namespace Context
variable {c : Context}

/-- An entry to keep resolves to a name and a value. -/
def Resolves (c : Context) (t : Template × Template) (e : String × String) : Prop :=
  c.value t.1 = .ok e.1 ∧ c.value t.2 = .ok e.2

theorem value_eq_error_iff {t : Template} {err : ResolutionError} :
    c.value t = .error (.resolution err) ↔ Template.resolve c.toBindings t = .error err := by
  unfold value
  cases Template.resolve c.toBindings t <;> simp [Except.mapError]

theorem value_eq_ok_iff {t : Template} {v : String} :
    c.value t = .ok v ↔ Template.resolve c.toBindings t = .ok v := by
  unfold value
  cases Template.resolve c.toBindings t <;> simp [Except.mapError]

/-- The first of several texts that has no value has the error of the texts one after the
other. -/
theorem firstFault?_eq_iff {ts : List Template} {err : ResolutionError} :
    c.firstFault? ts = some (.resolution err) ↔
      Template.resolve c.toBindings ts.flatten = .error err := by
  induction ts with
  | nil => simp [Template.resolve]
  | cons t rest ih =>
    rw [firstFault?_cons_eq_some_iff, List.flatten_cons, Template.resolve_append,
      bind_eq_error_iff, value_eq_error_iff, ih]
    simp only [value_eq_ok_iff]
    cases Template.resolve c.toBindings rest.flatten <;> simp

theorem value_configuration_iff {t : Template} {v : String} :
    c.value [.configuration t none] = .ok v ↔
      ∃ n, c.value t = .ok n ∧ c.configurations.get? n = some v := by
  simp only [value_eq_ok_iff]
  show Template.resolve _ [Table.configurations.part t none] = _ ↔ _
  exact Template.resolve_bare_eq_ok_iff

section Entries
variable {l : List (Template × Template)} {entries : List (String × String)}

/-- If every entry for a name carries the value of one configuration across, then this is the value
of the name in what the entries make up. -/
theorem get?_of_carried {m : OrderedMap String} (hm : m.ConsistsOf entries)
    (h : List.Forall₂ c.Resolves l entries) {s t : Template} {a b : String}
    (hs : c.value s = .ok a) (ht : c.value t = .ok b) (hmem : (s, [.configuration t none]) ∈ l)
    (hall : ∀ p ∈ l, c.value p.1 = .ok a → p.2 = [.configuration t none]) :
    m.get? a = c.configurations.get? b := by
  obtain ⟨e, he, hname, -⟩ := exists_mem_of_forall₂ h _ hmem
  have hpresent : m.contains a = true := by
    rw [hs, Except.ok.injEq] at hname
    rw [OrderedMap.contains_iff_mem_keys, hm.collects.mem_keys_iff]
    exact ⟨e, he, hname.symm⟩
  obtain ⟨v, hv⟩ := Option.isSome_iff_exists.mp hpresent
  obtain ⟨p, hp, hpname, hpvalue⟩ := exists_mem_of_forall₂ h.flip _ (hm.mem_of_get? hv)
  rw [hall p hp hpname, value_configuration_iff] at hpvalue
  obtain ⟨n, hn, hnv⟩ := hpvalue
  rw [ht, Except.ok.injEq] at hn
  rw [hv, hn, hnv]

/-- An entry that keeps a configuration with its own value. -/
def keepOwn (name : String) : Template × Template :=
  (Template.literal name, [.configuration (Template.literal name) none])

/-- Keeping every configuration with its own value, in order, gives the entries there are. -/
theorem resolves_keepOwn (c : Context) :
    List.Forall₂ c.Resolves (c.configurations.keys.map keepOwn) c.configurations.entries := by
  rw [OrderedMap.keys, List.map_map, List.forall₂_map_left_iff, List.forall₂_same]
  intro e he
  have hname : c.value (Template.literal e.1) = .ok e.1 := by
    rw [value_eq_ok_iff, Template.literal, Template.resolve_text_cons]
    exact congrArg Except.ok String.append_empty
  refine ⟨hname, value_configuration_iff.mpr ⟨e.1, hname, ?_⟩⟩
  exact (OrderedMap.lookup_eq_some_iff c.configurations.nodup).mpr he

end Entries
end Context

namespace Action
variable {c : Context} {cond : Option Condition} {keep : Option (List (Template × Template))}

/-- The texts of the entries that a reset keeps, each name before its value. -/
def keptTexts (keep : Option (List (Template × Template))) : Template :=
  ((keptEntries keep).flatMap fun t => [t.1, t.2]).flatten

theorem on_reset_of_resolves {entries : List (String × String)}
    (h : List.Forall₂ c.Resolves (keptEntries keep) entries) :
    (resetConfigurations cond keep).perform.on c =
      ({ c with
          configurations := OrderedMap.ofList entries
          log := c.log.push (.resetting (OrderedMap.ofList entries).size) }, .ok none) := by
  rw [on_perform, execute_of_executes (.resetConfigurations (Context.values_eq_ok_iff.mpr h))]
  rfl

theorem on_reset_of_not_resolves (cond : Option Condition)
    (h : ¬ ∃ entries, List.Forall₂ c.Resolves (keptEntries keep) entries) :
    ∃ err, Template.resolve c.toBindings (keptTexts keep) = .error err ∧
      (resetConfigurations cond keep).perform.on c = (c, .error (.resolution err)) := by
  cases hv : c.values (keptEntries keep) with
  | ok entries => exact absurd ⟨entries, Context.values_eq_ok_iff.mp hv⟩ h
  | error cause =>
    obtain ⟨err, rfl⟩ := values_error hv
    refine ⟨err, Context.firstFault?_eq_iff.mp (Context.values_eq_error_iff.mp hv), ?_⟩
    rw [on_perform, execute, hv]
    rfl

end Action

/-- **A reset of the configurations of `c` is simultaneous.**

* `resolved`: if all entries have a name and a value in `c`, the new configurations are made up of
  these.  Every other field of the context is as in `c`, but for one record behind the log.
* `unresolved`: if one has not, nothing is changed at all.  The error is that of the first lookup
  that is not satisfied, entries in order and each name before its value.
* `exchanged`: two configurations that are kept with each other's value swap their values,
  whatever else is kept.
* `kept`: entries that are those of `c`, in order, leave the configurations as they were. -/
structure SimultaneousReset (c : Context) (cond : Option Condition)
    (keep : Option (List (Template × Template))) : Prop where
  resolved : ∀ entries, List.Forall₂ c.Resolves (Action.keptEntries keep) entries →
    ∃ m : OrderedMap String, m.Collects entries ∧
      (Action.resetConfigurations cond keep).perform.on c =
        ({ c with configurations := m, log := c.log.push (.resetting m.size) }, .ok none)
  unresolved : (¬ ∃ entries, List.Forall₂ c.Resolves (Action.keptEntries keep) entries) →
    ∃ (table : Table) (name : String), name ∉ (c.table table).keys ∧
      (∃ before after, Template.lookups c.toBindings (Action.keptTexts keep) =
          before ++ ⟨table, name, false⟩ :: after ∧
        ∀ l ∈ before, l.isSatisfied c.toBindings = true) ∧
      (Action.resetConfigurations cond keep).perform.on c =
        (c, .error (.resolution (table.missing name)))
  exchanged : ∀ entries (s t : Template) (a b : String),
    List.Forall₂ c.Resolves (Action.keptEntries keep) entries →
    c.value s = .ok a → c.value t = .ok b →
    (s, [.configuration t none]) ∈ Action.keptEntries keep →
    (t, [.configuration s none]) ∈ Action.keptEntries keep →
    (∀ p ∈ Action.keptEntries keep, c.value p.1 = .ok a → p.2 = [.configuration t none]) →
    (∀ p ∈ Action.keptEntries keep, c.value p.1 = .ok b → p.2 = [.configuration s none]) →
    ((Action.resetConfigurations cond keep).perform.on c).1.configurations.get? a =
        c.configurations.get? b ∧
      ((Action.resetConfigurations cond keep).perform.on c).1.configurations.get? b =
        c.configurations.get? a
  kept : List.Forall₂ c.Resolves (Action.keptEntries keep) c.configurations.entries →
    ((Action.resetConfigurations cond keep).perform.on c).1.configurations = c.configurations

theorem simultaneousReset (c : Context) (cond : Option Condition)
    (keep : Option (List (Template × Template))) : SimultaneousReset c cond keep where
  resolved := fun entries h =>
    ⟨_, (OrderedMap.consistsOf_ofList entries).collects, Action.on_reset_of_resolves h⟩
  unresolved := by
    intro h
    obtain ⟨err, herr, hreset⟩ := Action.on_reset_of_not_resolves cond h
    obtain ⟨table, name, rfl⟩ := Table.exists_missing err
    obtain ⟨habsent, hfirst⟩ := Template.resolve_eq_missing_iff.mp herr
    exact ⟨table, name, habsent, hfirst, hreset⟩
  exchanged := by
    intro entries s t a b h hs ht hst hts ha hb
    have hentries := OrderedMap.consistsOf_ofList entries
    rw [Action.on_reset_of_resolves h]
    exact ⟨Context.get?_of_carried hentries h hs ht hst ha,
      Context.get?_of_carried hentries h ht hs hts hb⟩
  kept := by
    intro h
    rw [Action.on_reset_of_resolves h]
    exact OrderedMap.ofList_entries c.configurations

/-- **Resets are simultaneous.**  In particular a reset that keeps each configuration with its own
value is the identity on the configurations. -/
theorem reset_simultaneous (c : Context) (cond : Option Condition) :
    (∀ keep, SimultaneousReset c cond keep) ∧
      List.Forall₂ c.Resolves (c.configurations.keys.map Context.keepOwn)
        c.configurations.entries :=
  ⟨simultaneousReset c cond, c.resolves_keepOwn⟩

/-- Two configurations are exchanged, and a third one gets a name that is looked up. -/
example :
    let c := ((Context.ofEnvironment .empty).setConfiguration "a" "1").setConfiguration "b" "2"
    let own := fun name : String => ([.configuration (Template.literal name) none] : Template)
    let reset : Action := .resetConfigurations none (some [(Template.literal "b", own "a"),
      (own "b", Template.literal "c"), (Template.literal "a", own "b")])
    (reset.perform.on c).1.configurations.entries = [("b", "1"), ("2", "c"), ("a", "2")] := by
  rfl

end LaunchPlan
