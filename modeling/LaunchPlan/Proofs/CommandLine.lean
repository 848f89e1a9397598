import LaunchPlan.Proofs.Override

/-! # Launch arguments on the command line

A command line may give any number of launch arguments, among other options and on both sides of the
launch file.  `Override.texts` picks out their texts, and the parser reads just these
(`PartialArguments.reads_parse`): an argument of the command line is the end of the options, an
option with the value that follows it, or something that gives no value to a name.

The other way round, any list of launch arguments can be given (`Request.exists_parse_line`).
`command_line_overrides` puts the two together.
-/
namespace LaunchPlan
namespace Override

/-- The texts of launch arguments on a command line.  The argument behind an option that takes a
value is the value, whatever it looks like, and two hyphens end the options. -/
def texts : List String → List String
  | [] => []
  | option :: rest =>
    if option = "--" then []
    else
      match PartialArguments.valueOption? option, rest with
      | none, rest => texts rest
      | some .argument, t :: rest => t :: texts rest
      | some _, _ :: rest => texts rest
      | some _, [] => []

/-- The launch arguments are found among other options; neither the value of one of these nor what
follows two hyphens is a launch argument. -/
example : texts ["a.xml", "-a", "k:=v", "--format", "-a", "--dry-run", "--arg", "--", "--", "-a",
    "x:=y"] = ["k:=v", "--"] := by
  decide

/-- The arguments of a command line that gives values to names. -/
def line (entries : List (String × String)) : List String := entries.flatMap fun e => ["-a", text e]

end Override

/-! ## Reading a command line -/

namespace PartialArguments
open Override
variable {p q : PartialArguments} {o : ValueOption} {a value t : String}
  {rest arguments : List String} {entries : List (String × String)}

/-- The names of the options that take a value. -/
def valueOptions : List String := ["-a", "--arg", "--format", "-l", "--log-level"]

theorem mem_valueOptions (h : valueOption? a = some o) : a ∈ valueOptions := by
  grind [valueOption?, valueOptions]

theorem fill_argument_eq_ok_iff : p.fill t .argument = .ok q ↔
    ∃ e, IsName e.1 ∧ t = text e ∧ q = { p with overrides := e :: p.overrides } := by
  simp only [← and_assoc, ← parseOverride?_eq_some_iff]
  rw [fill]
  cases parseOverride? t <;> simp [eq_comm]

theorem fill_argument_eq_error_iff {fault : OptionFault} : p.fill t .argument = .error fault ↔
    (∀ e, IsName e.1 → t ≠ text e) ∧ fault = .notOverride t := by
  rw [← parseOverride?_eq_none_iff, fill]
  cases parseOverride? t <;> simp [eq_comm]

/-- What the value of an option changes. -/
theorem fill_cases (h : p.fill value o = .ok q) : q.optionsEnded = p.optionsEnded ∧
    ((o = .argument ∧ ∃ e, IsName e.1 ∧ value = text e ∧ q.overrides = e :: p.overrides) ∨
      (o ≠ .argument ∧ q.overrides = p.overrides)) := by
  cases o with
  | argument =>
    obtain ⟨e, hname, htext, rfl⟩ := fill_argument_eq_ok_iff.mp h
    exact ⟨rfl, .inl ⟨rfl, e, hname, htext, rfl⟩⟩
  | format =>
    rw [fill] at h
    split at h
    · cases h
    · obtain ⟨format, -, h⟩ := bind_eq_ok_iff.mp h
      cases h
      exact ⟨rfl, .inr ⟨nofun, rfl⟩⟩
  | logLevel =>
    rw [fill] at h
    split at h
    · cases h
    · cases h
      exact ⟨rfl, .inr ⟨nofun, rfl⟩⟩

theorem overrides_switch? (h : p.switch? a = some q) :
    q.overrides = p.overrides ∧ q.optionsEnded = p.optionsEnded := by
  rw [switch?] at h
  split_ifs at h <;> cases h <;> exact ⟨rfl, rfl⟩

theorem switch?_of_valueOption? (h : valueOption? a = some o) : p.switch? a = none := by
  have hall : ∀ x ∈ valueOptions,
      x ≠ "--dry-run" ∧ x ≠ "--validate" ∧ x ≠ "--no-inherit-env" := by decide
  obtain ⟨hdry, hvalidate, hempty⟩ := hall a (mem_valueOptions h)
  rw [switch?, if_neg hdry, if_neg hvalidate, if_neg hempty]

/-- An option that takes a value takes the next argument. -/
theorem parse_of_valueOption? (ho : valueOption? a = some o) (hopen : p.optionsEnded = false) :
    p.parse (a :: rest) =
      if p.wantsHelp then .error .afterHelp
      else
        match rest with
        | [] => .error (.noValue a)
        | value :: rest =>
          match p.fill value o with
          | .ok p => p.parse rest
          | .error fault => .error (.badValue a value fault) := by
  have hall : ∀ x ∈ valueOptions,
      x.toList.head? = some '-' ∧ x ≠ "--" ∧ ¬ (x = "--help" ∨ x = "help") := by decide
  obtain ⟨hhead, hend, hhelp⟩ := hall a (mem_valueOptions ho)
  have hstart : ¬ p.optionsEnded = true ∧ a.toList.head? = some '-' := ⟨by simp [hopen], hhead⟩
  rw [parse.eq_def]
  dsimp only
  rw [if_neg fun h => hhelp h.2, if_pos hstart, if_neg hend, switch?_of_valueOption? ho, ho]
  cases rest <;> rfl

theorem parse_value (ho : valueOption? a = some o) (hopen : p.optionsEnded = false)
    (hhelp : p.wantsHelp = false) : p.parse (a :: value :: rest) =
      match p.fill value o with
      | .ok p => p.parse rest
      | .error fault => .error (.badValue a value fault) := by
  rw [parse_of_valueOption? ho hopen, hhelp]
  rfl

theorem exists_parse_of_valueOption? (ho : valueOption? a = some o) (hopen : p.optionsEnded = false)
    (h : p.parse (a :: value :: rest) = .ok q) :
    ∃ p', p.fill value o = .ok p' ∧ p'.parse rest = .ok q := by
  cases hhelp : p.wantsHelp with
  | true =>
    -- no option may stand behind a request for help
    rw [parse_of_valueOption? ho hopen, if_pos hhelp] at h
    cases h
  | false =>
    rw [parse_value ho hopen hhelp] at h
    cases hfill : p.fill value o with
    | error fault =>
      rw [hfill] at h
      cases h
    | ok p' =>
      rw [hfill] at h
      exact ⟨p', rfl, h⟩

/-- Anything else but the end of the options stands alone, and gives no value to a name. -/
theorem exists_parse_of_valueOption?_eq_none (ho : valueOption? a = none) (hend : a ≠ "--")
    (hopen : p.optionsEnded = false) (h : p.parse (a :: rest) = .ok q) :
    ∃ p' : PartialArguments, p'.overrides = p.overrides ∧ p'.optionsEnded = false ∧
      p'.parse rest = .ok q := by
  rw [parse.eq_def] at h
  dsimp only at h
  rw [ho, if_neg hend] at h
  split_ifs at h
  · exact ⟨{ p with wantsHelp := true }, rfl, hopen, h⟩
  · cases hswitch : p.switch? a with
    | none =>
      rw [hswitch] at h
      cases h
    | some p' =>
      rw [hswitch] at h
      obtain ⟨hoverrides, hended⟩ := overrides_switch? hswitch
      exact ⟨p', hoverrides, hended.trans hopen, h⟩
  · exact ⟨{ p with launchFile := some a }, rfl, hopen, h⟩

theorem parse_hyphens (hopen : p.optionsEnded = false) :
    p.parse ("--" :: rest) = { p with optionsEnded := true }.parse rest := by
  rw [parse.eq_def]
  dsimp only
  rw [if_neg (by simp), if_pos ⟨by simp [hopen], rfl⟩, if_pos rfl]

/-- Once the options have ended, nothing gives a value to a name. -/
theorem overrides_parse_of_ended (hended : p.optionsEnded = true) (h : p.parse arguments = .ok q) :
    q.overrides = p.overrides := by
  induction arguments generalizing p with
  | nil =>
    cases h
    rfl
  | cons a rest ih =>
    rw [parse.eq_def] at h
    dsimp only at h
    rw [if_neg (by simp [hended]), if_neg (by simp [hended])] at h
    split at h
    · cases h
    · exact ih (p := { p with launchFile := some a }) hended h

/-- From the one state of the parser to the other, the launch arguments of these texts were read, in
their order; the state holds the last one first. -/
def Reads (p q : PartialArguments) (texts : List String) : Prop :=
  ∃ entries : List (String × String), (∀ e ∈ entries, IsName e.1) ∧ texts = entries.map text ∧
    q.overrides = entries.reverse ++ p.overrides

section Reads
variable {p' : PartialArguments} {e : String × String} {ts : List String}

theorem reads_nil (h : q.overrides = p.overrides) : Reads p q [] := ⟨[], nofun, rfl, h⟩

theorem Reads.cons (h : Reads p' q ts) (he : IsName e.1) (hp : p'.overrides = e :: p.overrides) :
    Reads p q (text e :: ts) := by
  obtain ⟨entries, hnames, rfl, hq⟩ := h
  refine ⟨e :: entries, List.forall_mem_cons.mpr ⟨he, hnames⟩, rfl, ?_⟩
  rw [hq, hp, List.reverse_cons, List.append_assoc, List.singleton_append]

theorem Reads.of_overrides_eq (h : Reads p' q ts) (hp : p'.overrides = p.overrides) :
    Reads p q ts := by
  rw [Reads, ← hp]
  exact h

end Reads

/-- **The parser reads the texts of launch arguments**, and no others, if it accepts the command
line. -/
theorem reads_parse (hopen : p.optionsEnded = false) (h : p.parse arguments = .ok q) :
    Reads p q (texts arguments) := by
  fun_induction texts arguments generalizing p with
  | case1 =>
    cases h
    exact reads_nil rfl
  | case2 rest =>
    rw [parse_hyphens hopen] at h
    exact reads_nil (overrides_parse_of_ended (p := { p with optionsEnded := true }) rfl h)
  | case3 a hend rest ho ih =>
    obtain ⟨p', hoverrides, hopen', h'⟩ := exists_parse_of_valueOption?_eq_none ho hend hopen h
    exact (ih hopen' h').of_overrides_eq hoverrides
  | case4 a hend t rest ho ih =>
    obtain ⟨p', hfill, h'⟩ := exists_parse_of_valueOption? ho hopen h
    obtain ⟨e, hname, rfl, rfl⟩ := fill_argument_eq_ok_iff.mp hfill
    exact (ih (p := { p with overrides := e :: p.overrides }) hopen h').cons hname rfl
  | case5 a hend o value rest hother ho ih =>
    obtain ⟨p', hfill, h'⟩ := exists_parse_of_valueOption? ho hopen h
    obtain ⟨hended, ⟨harg, -⟩ | ⟨-, hoverrides⟩⟩ := fill_cases hfill
    · exact absurd harg hother
    · exact (ih (hended.trans hopen) h').of_overrides_eq hoverrides
  | case6 a hend o ho =>
    rw [parse_of_valueOption? ho hopen] at h
    split_ifs at h

/-- Launch arguments with proper names are accepted, whatever follows them. -/
theorem parse_line_append (rest : List String) (hnames : ∀ e ∈ entries, IsName e.1)
    (hopen : p.optionsEnded = false) (hhelp : p.wantsHelp = false) :
    p.parse (line entries ++ rest) =
      { p with overrides := entries.reverse ++ p.overrides }.parse rest := by
  induction entries generalizing p with
  | nil => rfl
  | cons e entries ih =>
    obtain ⟨he, hnames⟩ := List.forall_mem_cons.mp hnames
    have hfill := (fill_argument_eq_ok_iff (p := p)).mpr ⟨e, he, rfl, rfl⟩
    have hline : line (e :: entries) ++ rest = "-a" :: text e :: (line entries ++ rest) := rfl
    rw [hline, parse_value rfl hopen hhelp, hfill, List.reverse_cons, List.append_assoc,
      List.singleton_append]
    exact ih (p := { p with overrides := e :: p.overrides }) hnames hopen hhelp

/-- The first text that is no launch argument is refused. -/
theorem parse_refused (hopen : p.optionsEnded = false) (hhelp : p.wantsHelp = false)
    (h : ∀ e, IsName e.1 → t ≠ text e) :
    p.parse ("-a" :: t :: rest) = .error (.badValue "-a" t (.notOverride t)) := by
  have hfill := (fill_argument_eq_error_iff (p := p)).mpr ⟨h, rfl⟩
  rw [parse_value rfl hopen hhelp, hfill]

end PartialArguments

namespace Request
variable {arguments rest : List String} {entries : List (String × String)} {t : String}

theorem exists_parse_of_launch {a : Arguments} (h : Request.parse arguments = .ok (.launch a)) :
    ∃ q, PartialArguments.start.parse arguments = .ok q ∧ a.overrides = q.overrides.reverse := by
  obtain ⟨q, hq, h⟩ := bind_eq_ok_iff.mp h
  rw [Except.ok.injEq, PartialArguments.finish] at h
  split_ifs at h
  cases h
  exact ⟨q, hq, rfl⟩

/-- Any launch arguments with proper names can be given. -/
theorem exists_parse_line (h : ∀ e ∈ entries, Override.IsName e.1) :
    ∃ a, Request.parse (Override.line entries) = .ok (.launch a) ∧ a.overrides = entries := by
  have hparse := PartialArguments.parse_line_append (p := .start) [] h rfl rfl
  rw [List.append_nil, PartialArguments.parse] at hparse
  rw [Request.parse, hparse]
  refine ⟨_, rfl, ?_⟩
  rw [PartialArguments.start, List.append_nil, List.reverse_reverse]

/-- Behind such launch arguments a text is refused that is none. -/
theorem parse_line_refused (h : ∀ e ∈ entries, Override.IsName e.1)
    (ht : ∀ e, Override.IsName e.1 → t ≠ Override.text e) :
    Request.parse (Override.line entries ++ "-a" :: t :: rest) =
      .error (.badValue "-a" t (.notOverride t)) := by
  have hparse := PartialArguments.parse_line_append (p := .start) ("-a" :: t :: rest) h rfl rfl
  rw [PartialArguments.parse_refused rfl rfl ht] at hparse
  rw [Request.parse, hparse]
  rfl

end Request

/-! ## What a command line gives -/

namespace Arguments
variable {a : Arguments} {arguments : List String}

/-- **The launch arguments are those of the command line**: they have proper names, and their texts
are the texts given, in the same order. -/
structure GivenBy (a : Arguments) (arguments : List String) : Prop where
  names : ∀ e ∈ a.overrides, Override.IsName e.1
  texts : Override.texts arguments = a.overrides.map Override.text

theorem givenBy (h : Request.parse arguments = .ok (.launch a)) : a.GivenBy arguments := by
  obtain ⟨q, hq, ha⟩ := Request.exists_parse_of_launch h
  obtain ⟨entries, hnames, htexts, hentries⟩ := PartialArguments.reads_parse rfl hq
  rw [PartialArguments.start, List.append_nil] at hentries
  rw [hentries, List.reverse_reverse] at ha
  subst ha
  exact ⟨hnames, htexts⟩

end Arguments

namespace Override

/-- **How the option takes a text.**  One that is a launch argument goes with the name and the value
to what was read before, and any other is reported. -/
structure TakenExactly (t : String) : Prop where
  taken (p q : PartialArguments) : p.fill t .argument = .ok q ↔
    ∃ e, IsName e.1 ∧ t = text e ∧ q = { p with overrides := e :: p.overrides }
  fault (p : PartialArguments) (fault : OptionFault) : p.fill t .argument = .error fault ↔
    (∀ e, IsName e.1 → t ≠ text e) ∧ fault = .notOverride t

/-- **Launch arguments are given** by a command line with just their texts, in their order, and
behind them a text is refused that is no launch argument. -/
structure GivenInLine (entries : List (String × String)) : Prop where
  accepted : ∃ a, Request.parse (line entries) = .ok (.launch a) ∧ a.overrides = entries
  refused : ∀ t rest, (∀ e, IsName e.1 → t ≠ text e) →
    Request.parse (line entries ++ "-a" :: t :: rest) = .error (.badValue "-a" t (.notOverride t))

end Override

/-- **The command line gives the launch arguments.**  An accepted command line has the launch
arguments of its texts, and any launch arguments with proper names can be given. -/
theorem command_line_overrides :
    (∀ t, Override.TakenExactly t) ∧
    (∀ arguments a, Request.parse arguments = .ok (.launch a) → a.GivenBy arguments) ∧
    ∀ entries : List (String × String), (∀ e ∈ entries, Override.IsName e.1) →
      Override.GivenInLine entries := by
  refine ⟨fun t => ⟨fun _ _ => ?_, fun _ _ => ?_⟩, fun _ _ h => Arguments.givenBy h,
    fun entries h => ⟨Request.exists_parse_line h, fun t rest ht => ?_⟩⟩
  · exact PartialArguments.fill_argument_eq_ok_iff
  · exact PartialArguments.fill_argument_eq_error_iff
  · exact Request.parse_line_refused h ht

/-- Behind launch arguments with colons beside the separator, a text without a name is refused. -/
example : Request.parse ["-a", "a::=1", "-a", "k:=:=v", "-a", ":=v", "--format", "json"] =
    .error (.badValue "-a" ":=v" (.notOverride ":=v")) := by
  cbv

end LaunchPlan
