import Mathlib.Data.List.Infix
import LaunchPlan.CommandLine.Arguments
import LaunchPlan.Proofs.History
import LaunchPlan.Proofs.Reset

/-! # Launch arguments

A launch argument is given as a text: its name, the separator `:=` and its value.  The first
separator counts, so a value may hold further ones.  A name may not, but it may end in a colon, for
no separator begins in front of the place where one is put.  Hence name and value can be told from
the text (`Override.parseOverride?_eq_some_iff`), and a text is refused only if it is not made up in
this way.

A name that is given twice has the value given last and the place given first: the launch arguments
are collected from the list (`OrderedMap.Collects`), and the launch configurations with which the
service starts are the launch arguments.
-/
namespace LaunchPlan

/-! ## Name, separator and value -/

section Split
variable {c : Char} {cs rest name value : List Char}

theorem separator_prefix_cons_iff :
    [':', '='] <+: c :: rest ↔ ∃ left, c = ':' ∧ rest = '=' :: left := by
  cases rest with
  | nil => simp [List.cons_prefix_cons]
  | cons d left => simp [List.cons_prefix_cons, eq_comm]

/-- A separator does not begin before the place where it is put. -/
theorem separator_prefix_cons_append_iff :
    [':', '='] <+: c :: (rest ++ ':' :: '=' :: value) ↔ [':', '='] <+: c :: rest := by
  cases rest with
  | nil => simp [List.cons_prefix_cons]
  | cons d left => simp [List.cons_prefix_cons]

/-- **The split is at the first separator.** -/
theorem splitAssignment?_eq_some_iff : splitAssignment? cs = some (name, value) ↔
    ¬ [':', '='] <:+: name ∧ cs = name ++ ':' :: '=' :: value := by
  constructor
  · intro h
    fun_induction splitAssignment? cs generalizing name with
    | case1 => cases h
    | case2 left =>
      cases h
      exact ⟨by simp, rfl⟩
    | case3 c rest hsep ih =>
      obtain ⟨⟨start, left⟩, hrest, heq⟩ := Option.map_eq_some_iff.mp h
      cases heq
      obtain ⟨hstart, rfl⟩ := ih hrest
      refine ⟨?_, rfl⟩
      rw [List.infix_cons_iff, ← separator_prefix_cons_append_iff, separator_prefix_cons_iff]
      rintro (⟨left', hc, hrest'⟩ | hinfix)
      · -- a separator here would have ended the search
        exact hsep left' hc hrest'
      · exact hstart hinfix
  · rintro ⟨h, rfl⟩
    induction name with
    | nil => rfl
    | cons c rest ih =>
      rw [List.infix_cons_iff, not_or, ← separator_prefix_cons_append_iff,
        separator_prefix_cons_iff] at h
      have hsep : ∀ left, c = ':' → rest ++ ':' :: '=' :: value = '=' :: left → False :=
        fun left hc hrest => h.1 ⟨left, hc, hrest⟩
      rw [List.cons_append, splitAssignment?.eq_3 c _ hsep, ih h.2]
      rfl

end Split

namespace Override

/-- **What can be the name** of a launch argument. -/
structure IsName (name : String) : Prop where
  nonempty : name ≠ ""
  noSeparator : ¬ [':', '='] <:+: name.toList

instance (name : String) : Decidable (IsName name) :=
  decidable_of_iff (name ≠ "" ∧ ¬ [':', '='] <:+: name.toList)
    ⟨fun h => ⟨h.1, h.2⟩, fun h => ⟨h.1, h.2⟩⟩

/-- The text that gives a value to a name. -/
def text (e : String × String) : String := e.1 ++ ":=" ++ e.2

variable {e : String × String} {t : String}

theorem toList_text (e : String × String) :
    (text e).toList = e.1.toList ++ ':' :: '=' :: e.2.toList := by
  rw [text, String.toList_append, String.toList_append, List.append_assoc]
  rfl

/-- **What is read** as a launch argument: a text with a name in front of the separator, and no
other. -/
theorem parseOverride?_eq_some_iff :
    parseOverride? t = some e ↔ IsName e.1 ∧ t = text e := by
  obtain ⟨name, value⟩ := e
  rw [← String.toList_inj, toList_text]
  constructor
  · intro h
    rw [parseOverride?] at h
    split at h
    · next c key left hsplit =>
      obtain ⟨hkey, htext⟩ := splitAssignment?_eq_some_iff.mp hsplit
      cases h
      refine ⟨⟨?_, ?_⟩, ?_⟩
      · simp
      · simpa using hkey
      · simpa using htext
    · cases h
  · rintro ⟨⟨hne, hsep⟩, htext⟩
    have hsplit := splitAssignment?_eq_some_iff.mpr ⟨hsep, htext⟩
    have hne' : name.toList ≠ [] := by simpa using hne
    obtain ⟨c, key, hkey⟩ := List.exists_cons_of_ne_nil hne'
    rw [hkey] at hsplit
    rw [parseOverride?, hsplit]
    simp [← hkey]

theorem parseOverride?_eq_none_iff :
    parseOverride? t = none ↔ ∀ e, IsName e.1 → t ≠ text e := by
  rw [Option.eq_none_iff_forall_ne_some]
  refine forall_congr' fun e => ?_
  rw [ne_eq, parseOverride?_eq_some_iff, not_and]

/-- **How a text is read** as a launch argument: as a name and a value just if it is the name, the
separator and the value, and if it is no such text for any name and value, then it is refused. -/
structure ReadsExactly (t : String) : Prop where
  accepted (e : String × String) : parseOverride? t = some e ↔ IsName e.1 ∧ t = text e
  refused : parseOverride? t = none ↔ ∀ e, IsName e.1 → t ≠ text e

theorem readsExactly (t : String) : ReadsExactly t where
  accepted _ := parseOverride?_eq_some_iff
  refused := parseOverride?_eq_none_iff

end Override

/-! ## The configurations at the start -/

namespace Arguments

/-- **The service starts with the launch arguments.**  They are collected from what was given: of
several values for a name the last counts, and the names stand in the order in which they were
given first.  The launch configurations at the start are the launch arguments. -/
structure StartsWithGiven (a : Arguments) (environment : OrderedMap String) : Prop where
  collected : a.toConfig.arguments.Collects a.overrides
  configurations : (Service.ofConfig a.toConfig environment).context.configurations =
    a.toConfig.arguments

theorem startsWithGiven (a : Arguments) (environment : OrderedMap String) :
    a.StartsWithGiven environment where
  collected := (OrderedMap.consistsOf_ofList a.overrides).collects
  configurations := by rw [Service.context_ofConfig]

end Arguments

/-- **Launch arguments are read as they are given.**  A text is read as a name and a value just if
it is made up of them, so every pair with a proper name is read back from its text.  The service
starts with the launch arguments that were given as its configurations. -/
theorem overrides_read_back :
    (∀ t, Override.ReadsExactly t) ∧
    (∀ e : String × String, Override.IsName e.1 → parseOverride? (Override.text e) = some e) ∧
    ∀ (a : Arguments) (environment : OrderedMap String), a.StartsWithGiven environment := by
  refine ⟨Override.readsExactly, fun e he => ?_, Arguments.startsWithGiven⟩
  exact Override.parseOverride?_eq_some_iff.mpr ⟨he, rfl⟩

section Colons

/-- A name that ends in a colon, given twice, and a value that begins with a separator. -/
def colonArguments : Arguments where
  launchFile := "launch/default.launch.xml"
  overrides := [("a:", "1"), ("k", ":=v"), ("a:", "")]
  isDryRun := false
  isValidation := false
  startsEmpty := true
  format := .text
  logLevel := "info"

/-- The separators are told from the colons beside them, and the name keeps its place with the value
given last.  Without a name there is no launch argument. -/
theorem overrides_read_back_colons :
    colonArguments.overrides.map Override.text = ["a::=1", "k:=:=v", "a::="] ∧
    parseOverride? "a::=1" = some ("a:", "1") ∧ parseOverride? "k:=:=v" = some ("k", ":=v") ∧
    parseOverride? ":=v" = none ∧ (∀ e, Override.IsName e.1 → ":=v" ≠ Override.text e) ∧
    (Service.ofConfig colonArguments.toConfig .empty).context.configurations.keys = ["a:", "k"] ∧
    (Service.ofConfig colonArguments.toConfig .empty).context.configurations.get? "a:" =
      some "" := by
  obtain ⟨hreads, hback, hstarts⟩ := overrides_read_back
  obtain ⟨hcollected, hconfigurations⟩ := hstarts colonArguments .empty
  refine ⟨rfl, hback ("a:", "1") (by decide), hback ("k", ":=v") (by decide), rfl,
    (hreads ":=v").refused.mp rfl, ?_, ?_⟩
  · rw [hconfigurations, hcollected.order]
    rfl
  · rw [hconfigurations]
    exact hcollected.last [("a:", "1"), ("k", ":=v")] ("a:", "") [] rfl nofun

end Colons
end LaunchPlan
