import LaunchPlan.Proofs.XmlLayout
import LaunchPlan.Proofs.YamlLayout

/-! # One outline in two markups

The entity of an outline in XML and the entity of the same outline in YAML both show it, and
reading looks at nothing else.  So both are read as the same description.
-/
namespace LaunchPlan

/-- **The markup makes no difference.**  Every outline can be written in XML and in YAML; and
whichever way it is written, the entities of the two are read as the same description, or fail
with the same error. -/
theorem toDescription_markups (o : Outline) :
    (∃ x, o.In Xml.Writes x) ∧ (∃ v, o.In Yaml.Writes v) ∧
      ∀ x v, o.In Xml.Writes x → o.In Yaml.Writes v →
        ∃ e f, x.entity? = some e ∧ Yaml.taggedEntity v = .ok f ∧
          e.toDescription .builtin = f.toDescription .builtin := by
  refine ⟨o.exists_in Xml.isTotal_writes, o.exists_in Yaml.isTotal_writes, fun x v hx hv => ?_⟩
  obtain ⟨e, hentity, he⟩ := hx.translate Xml.translates_writes
  obtain ⟨f, htagged, hf⟩ := hv.translate Yaml.translates_writes
  exact ⟨e, f, hentity, htagged, Outline.toDescription_eq he hf⟩

section ResetThenGroup

/-- A reset that keeps an entry, and a group. -/
def resetThenGroup : Outline where
  label := ⟨"launch", .empty, [], by decide, by decide, nofun⟩
  children :=
    [.leaf ⟨"reset", .empty, [.ofList [("name", "foo"), ("value", "$(var foo)")]],
      by decide, by decide, fun _ => rfl⟩,
    .group ⟨"group", .ofList [("scoped", "false"), ("if", "true")], [],
      by decide, by decide, nofun⟩ rfl
      [.leaf ⟨"log", .ofList [("message", "$(var foo)")], [], by decide, by decide, nofun⟩]]

/-- The outline in XML, with other nodes between the elements. -/
def resetThenGroupXml : Xml.Node :=
  .element "launch" []
    [.comment "first",
    .element "reset" []
      [.text " ", .element "keep" [⟨none, "value", "$(var foo)"⟩, ⟨none, "name", "foo"⟩] []],
    .text " ",
    .element "group" [⟨none, "if", "true"⟩, ⟨none, "scoped", "false"⟩]
      [.instruction "note" "", .element "log" [⟨none, "message", "$(var foo)"⟩] [.text " "]]]

/-- The outline in YAML, with the children of the group between its attributes. -/
def resetThenGroupYaml : Yaml.Value :=
  let kept := Yaml.mappingOf [("name", .string "foo"), ("value", .string "$(var foo)")]
  let log := Yaml.mappingOf [("log", Yaml.mappingOf [("message", .string "$(var foo)")])]
  Yaml.mappingOf [("launch", Yaml.mappingOf [("children", .sequence
    [Yaml.mappingOf [("reset", Yaml.mappingOf [("keep", .sequence [kept])])],
    Yaml.mappingOf [("group", Yaml.mappingOf
      [("scoped", .string "false"), ("children", .sequence [log]), ("if", .string "true")])]])])]

theorem resetThenGroup_inXml : resetThenGroup.In Xml.Writes resetThenGroupXml := by
  have hkept : Xml.IsElement "keep" (.ofList [("name", "foo"), ("value", "$(var foo)")]) []
      (.element "keep" [⟨none, "value", "$(var foo)"⟩, ⟨none, "name", "foo"⟩] []) :=
    .intro (by simp) (by decide) rfl
  exact ⟨_, ⟨[], .nil, .intro (by simp) (by decide) rfl⟩,
    .cons (.intro ⟨_, .cons hkept .nil, .intro (by simp) (by decide) rfl⟩ .nil) <|
    .cons (.intro ⟨[], .nil, .intro (by simp) (by decide) rfl⟩ <|
      .cons (.intro ⟨[], .nil, .intro (by simp) (by decide) rfl⟩ .nil) .nil) .nil⟩

theorem resetThenGroup_inYaml : resetThenGroup.In Yaml.Writes resetThenGroupYaml := by
  have hkept : Yaml.IsMapping
      (Yaml.textFields (.ofList [("name", "foo"), ("value", "$(var foo)")]))
      (Yaml.mappingOf [("name", .string "foo"), ("value", .string "$(var foo)")]) :=
    .intro (.refl _)
  exact ⟨_, ⟨[], [], _, _, .nil, .absent rfl, fun _ => rfl, .present, .intro (.refl _), rfl⟩,
    .cons (.intro ⟨_, _, [], _, .cons hkept .nil, .present, nofun, .absent rfl, .intro (.refl _),
      rfl⟩ .nil) <|
    .cons (.intro ⟨[], [], _, _, .nil, .absent rfl, fun _ => rfl, .present,
      .intro ((List.Perm.swap _ _ _).cons _), rfl⟩ <|
      .cons (.intro ⟨[], [], [], _, .nil, .absent rfl, fun _ => rfl, .absent rfl, .intro (.refl _),
        rfl⟩ .nil) .nil) .nil⟩

theorem toDescription_resetThenGroup :
    resetThenGroup.In Xml.Writes resetThenGroupXml ∧
      resetThenGroup.In Yaml.Writes resetThenGroupYaml ∧
      ∃ e f, resetThenGroupXml.entity? = some e ∧ Yaml.taggedEntity resetThenGroupYaml = .ok f ∧
        e.toDescription .builtin = f.toDescription .builtin :=
  ⟨resetThenGroup_inXml, resetThenGroup_inYaml,
    (toDescription_markups resetThenGroup).2.2 _ _ resetThenGroup_inXml resetThenGroup_inYaml⟩

end ResetThenGroup

end LaunchPlan
