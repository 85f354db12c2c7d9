import TsWorkshop.Proofs.Reflection.OrderFree
import TsWorkshop.Proofs.Reflection.WriteBack

/-!
Reading, writing and reading again. Main statements:

- `ofJson_toJson_stable`: what is read from what was written is what was written, both for values
  as they are written and for values held by their content;
- `kept_toJson`: no information about a type is lost when it is written back.
-/

namespace TsWorkshop

theorem Descriptor.ofJson_toJson (v : Json) :
    Descriptor.ofJson (Descriptor.ofJson v).toJson = Descriptor.ofJson v :=
  Option.some.inj ((preserved v).type _ rfl).reread

/-- The content of what is written for a descriptor reads the same again. -/
theorem Descriptor.ofJson_canonical_toJson (v : Json) :
    Descriptor.ofJson (Descriptor.ofJson v.canonical).toJson.canonical =
      Descriptor.ofJson v.canonical := by
  have keys := Json.uniqueKeys_canonical v
  have unique := ((preserved v.canonical).type _ rfl).unique keys
  calc Descriptor.ofJson (Descriptor.ofJson v.canonical).toJson.canonical
      = (Descriptor.ofJson (Descriptor.ofJson v.canonical).toJson).canonical :=
        Descriptor.ofJson_canonical _ unique
    _ = (Descriptor.ofJson v.canonical).canonical := by rw [Descriptor.ofJson_toJson]
    _ = Descriptor.ofJson v.canonical.canonical := (Descriptor.ofJson_canonical _ keys).symm
    _ = Descriptor.ofJson v.canonical := by rw [Json.canonical_canonical]

theorem Declaration.ofJson?_toJson (v : Json) (d : Declaration)
    (h : Declaration.ofJson? v = some d) : Declaration.ofJson? d.toJson = some d :=
  ((preserved v).declaration d h).reread

/-- The content of what is written for a declaration reads the same again. -/
theorem Declaration.ofJson?_canonical_toJson (v : Json) (d : Declaration)
    (h : Declaration.ofJson? v.canonical = some d) :
    Declaration.ofJson? d.toJson.canonical = some d := by
  have keys := Json.uniqueKeys_canonical v
  have unique := ((preserved v.canonical).declaration d h).unique keys
  have sorted : d.canonical = d := by
    have again := Declaration.ofJson?_canonical v.canonical keys
    rw [Json.canonical_canonical, h] at again
    exact (Option.some.inj again).symm
  rw [Declaration.ofJson?_canonical _ unique, Declaration.ofJson?_toJson _ d h, Option.map_some,
    sorted]

/-- Writing and reading again changes nothing that was read, neither in a value as it is written
nor in a value that is held by its content. -/
theorem ofJson_toJson_stable :
    (∀ v, Descriptor.ofJson (Descriptor.ofJson v).toJson = Descriptor.ofJson v) ∧
    (∀ v : Json, Descriptor.ofJson (Descriptor.ofJson v.canonical).toJson.canonical =
      Descriptor.ofJson v.canonical) ∧
    (∀ v d, Declaration.ofJson? v = some d → Declaration.ofJson? d.toJson = some d) ∧
    (∀ (v : Json) (d : Declaration), Declaration.ofJson? v.canonical = some d →
      Declaration.ofJson? d.toJson.canonical = some d) :=
  ⟨Descriptor.ofJson_toJson, Descriptor.ofJson_canonical_toJson, Declaration.ofJson?_toJson,
    Declaration.ofJson?_canonical_toJson⟩

/-- A project with an accessor, a type in a reflected declaration and members without a field. -/
def accessorProject : Json :=
  .obj [("name", .str "project"), ("kind", .num (.whole 1)), ("flags", .obj []),
    ("getSignature", .obj [("name", .str "get"),
      ("type", .obj [("type", .str "reflection"),
        ("declaration", .obj [("children", .null), ("name", .str "__type"),
          ("type", .obj [("type", .str "union"), ("sources", .arr [])])])])])]

theorem ofJson_toJson_stable_accessor : ∃ d, Declaration.ofJson? accessorProject = some d ∧
    Declaration.ofJson? d.toJson = some d ∧
    ∃ e, Declaration.ofJson? accessorProject.canonical = some e ∧
      Declaration.ofJson? e.toJson.canonical = some e := by
  have fits : (Declaration.ofJson? accessorProject).isSome = true := by decide +kernel
  have sorted : (Declaration.ofJson? accessorProject.canonical).isSome = true := by decide +kernel
  obtain ⟨d, hd⟩ := Option.isSome_iff_exists.mp fits
  obtain ⟨e, he⟩ := Option.isSome_iff_exists.mp sorted
  exact ⟨d, hd, ofJson_toJson_stable.2.2.1 _ d hd, e, he, ofJson_toJson_stable.2.2.2 _ e he⟩

/-- Whatever a descriptor is read from, what is written for it holds every member that is not
`null`, at every depth outside doc comments and big integers, and adds nothing but the values of
absent fields. No key is written twice, so each member is found under its key. -/
theorem kept_toJson (v : Json) :
    Kept .type v.canonical (Descriptor.ofJson v.canonical).toJson ∧
      (Descriptor.ofJson v.canonical).toJson.uniqueKeys = true := by
  have keys := Json.uniqueKeys_canonical v
  have back := (preserved v.canonical).type _ rfl
  exact ⟨back.kept keys, back.unique keys⟩

end TsWorkshop
