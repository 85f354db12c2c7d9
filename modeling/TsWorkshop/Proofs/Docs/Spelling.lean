import TsWorkshop.Docs.Document
import TsWorkshop.Proofs.Docs.Reports
import TsWorkshop.Proofs.Reflection.Spelling

/-!
Releases of TypeDoc spell some fields of a declaration in different ways. `Respelled` is one such
change, at any depth; no sequence of them, in either direction, shows in the documentation file or
in what is reported.
-/

namespace TsWorkshop

/-! ### What is documented of a declaration -/

/-- Two declarations that no serializer can tell apart. -/
structure Declaration.Alike (d d' : Declaration) : Prop where
  name : d.name = d'.name
  kind : d.declaredKind = d'.declaredKind
  label : d.kindLabel = d'.kindLabel
  comment : d.comment = d'.comment
  signatures : d.signatures = d'.signatures
  getters : d.getSignature.map OneOrMany.toList = d'.getSignature.map OneOrMany.toList
  setters : d.setSignature.map OneOrMany.toList = d'.setSignature.map OneOrMany.toList
  type : d.type = d'.type
  generics : d.generics = d'.generics
  defaultValue : d.defaultValue = d'.defaultValue
  members : d.members.map Serializer.enumMember = d'.members.map Serializer.enumMember

theorem Serializer.enumMember_alike (d d' : Declaration) (alike : d.Alike d') :
    enumMember d = enumMember d' := by
  simp only [enumMember, alike.name, alike.type, alike.defaultValue, alike.comment]

theorem Serializer.fragment_alike (s : Serializer) (listed : s.Listed) (d d' : Declaration)
    (alike : d.Alike d') :
    s.fragment d = s.fragment d' ∧ s.events d = s.events d' := by
  have accessors (ss ss' : Option (OneOrMany Signature))
      (same : ss.map OneOrMany.toList = ss'.map OneOrMany.toList) :
      ss.map (fun s => accessorBlocks s.toList) = ss'.map fun s => accessorBlocks s.toList := by
    simpa [Option.map_map, Function.comp_def] using congrArg (Option.map accessorBlocks) same
  cases listed with
  | constructor => simp only [constructor, alike.signatures, alike.name, and_self]
  | method => simp only [method, alike.signatures, and_self]
  | function => simp only [function, alike.signatures, and_self]
  | variableDecl => simp only [variableDecl, alike.type, alike.defaultValue, and_self]
  | property => simp only [property, alike.type, and_self]
  | enum => simp only [enum, alike.members, and_self]
  | typeAlias => simp only [typeAlias, alike.generics, alike.type, alike.name, and_self]
  | accessor =>
    simp only [accessor, accessors _ _ alike.getters, accessors _ _ alike.setters, and_self]

/-! ### Labels -/

theorem Kind.ofName?_label (kind : Kind) (h : kind ≠ .other) : ofName? kind.label = some kind := by
  cases kind with
  | other => exact absurd rfl h
  | _ => decide +kernel

theorem Kind.ne_other_of_ofBits? (n : UInt32) (kind : Kind) (h : ofBits? n = some kind) :
    kind ≠ .other := by
  have listed : kind ∈ numbered := List.mem_of_find?_eq_some h
  rintro rfl
  revert listed
  decide

/-- A label that says what the bit of the kind says can be left out. -/
theorem Declaration.declaredKind_kindString (d : Declaration) (n : UInt32) (kind : Kind)
    (bit : d.kind = some (.bits n)) (resolved : Kind.ofBits? n = some kind)
    (h : d.kindString = some kind.label) :
    d.declaredKind = kind ∧ { d with kindString := none }.declaredKind = kind := by
  have known := Kind.ofName?_label kind (Kind.ne_other_of_ofBits? n kind resolved)
  simp [declaredKind, h, known, bit, RawKind.resolve, resolved]

theorem Declaration.kindLabel_kindString (d : Declaration) (n : UInt32) (kind : Kind)
    (bit : d.kind = some (.bits n)) (resolved : Kind.ofBits? n = some kind)
    (h : d.kindString = some kind.label) :
    d.kindLabel = kind.label ∧ { d with kindString := none }.kindLabel = kind.label := by
  obtain ⟨-, after⟩ := d.declaredKind_kindString n kind bit resolved h
  refine ⟨by simp [kindLabel, h], ?_⟩
  rw [kindLabel, after]
  simp [bit]

/-! ### One change -/

theorem Respelled.alike (d d' : Declaration) (h : Respelled d d') : d.Alike d' := by
  induction h with
  | getSignature d s h | setSignature d s h =>
    constructor <;> simp [Declaration.declaredKind, Declaration.kindLabel, Declaration.generics,
      Declaration.members, h, OneOrMany.toList]
  | generics d ps h absent =>
    constructor <;> simp [Declaration.declaredKind, Declaration.kindLabel, Declaration.generics,
      Declaration.members, h, absent]
  | kindString d n kind bit resolved h =>
    obtain ⟨before, after⟩ := d.declaredKind_kindString n kind bit resolved h
    obtain ⟨label, label'⟩ := d.kindLabel_kindString n kind bit resolved h
    constructor <;> simp [before, after, label, label', Declaration.generics, Declaration.members]
  | member d before after m m' children h ih =>
    constructor <;> simp [Declaration.declaredKind, Declaration.kindLabel, Declaration.generics,
      Declaration.members, children, Serializer.enumMember_alike m m' ih]

/-- Declarations that no serializer can tell apart are documented alike if their members are. -/
theorem Declaration.Alike.documented (r : Registry) (known : r.Known) (d d' : Declaration)
    (alike : d.Alike d') (blocks : blocksOf r d.members = blocksOf r d'.members)
    (events : warningsOf r d.members = warningsOf r d'.members) :
    d.toBlock r = d'.toBlock r ∧ d.warnings r = d'.warnings r := by
  cases kind : d.declaredKind.isContainer with
  | true =>
    have kind' : d'.declaredKind.isContainer = true := alike.kind ▸ kind
    have none : d.members = [] ↔ d'.members = [] := by
      have same := congrArg List.length alike.members
      rw [List.length_map, List.length_map] at same
      rw [← List.length_eq_zero_iff, same, List.length_eq_zero_iff]
    rw [toBlock_container r d kind, toBlock_container r d' kind', warnings_container r d kind,
      warnings_container r d' kind', alike.name, alike.label, alike.comment, blocks, events]
    exact ⟨by simp only [none], rfl⟩
  | false =>
    have kind' : d'.declaredKind.isContainer = false := alike.kind ▸ kind
    rw [toBlock_other r d kind, toBlock_other r d' kind', warnings_other r d kind,
      warnings_other r d' kind', ownWarnings, ownWarnings, kind, kind', alike.name, alike.label,
      alike.comment, alike.kind]
    cases served : r.find? d'.declaredKind with
    | none => simp [undocumented, alike.name, alike.label]
    | some s =>
      obtain ⟨fragment, events⟩ := s.fragment_alike (known.listed r _ s served) d d' alike
      simp [fragment, events]

/-- A change to a member shows in the members only as it shows in the member. -/
theorem blocksOf_member (r : Registry) (before after : List Declaration) (m m' : Declaration)
    (same : m.toBlock r = m'.toBlock r ∧ m.warnings r = m'.warnings r) :
    blocksOf r (before ++ m :: after) = blocksOf r (before ++ m' :: after) ∧
      warningsOf r (before ++ m :: after) = warningsOf r (before ++ m' :: after) := by
  simp [blocksOf_eq_map, warningsOf_eq_flatMap, same.1, same.2]

theorem Respelled.documented (r : Registry) (known : r.Known) (d d' : Declaration)
    (h : Respelled d d') :
    (blocksOf r d.members = blocksOf r d'.members ∧
      warningsOf r d.members = warningsOf r d'.members) ∧
    d.toBlock r = d'.toBlock r ∧ d.warnings r = d'.warnings r := by
  have step (d d' : Declaration) (h : Respelled d d')
      (members : blocksOf r d.members = blocksOf r d'.members ∧
        warningsOf r d.members = warningsOf r d'.members) :=
    And.intro members (h.alike.documented r known d d' members.1 members.2)
  induction h with
  | getSignature d s h => exact step _ _ (.getSignature d s h) ⟨rfl, rfl⟩
  | setSignature d s h => exact step _ _ (.setSignature d s h) ⟨rfl, rfl⟩
  | generics d ps h absent => exact step _ _ (.generics d ps h absent) ⟨rfl, rfl⟩
  | kindString d n kind bit resolved h =>
    exact step _ _ (.kindString d n kind bit resolved h) ⟨rfl, rfl⟩
  | member d before after m m' children h ih =>
    refine step _ _ (.member d before after m m' children h) ?_
    simpa [Declaration.members, children] using blocksOf_member r before after m m' ih.2

/-- Changes of spelling, any number of them in either direction, do not show. -/
theorem documented_of_eqvGen (r : Registry) (known : r.Known) (generatedAt : Timestamp)
    (project project' : Declaration) (h : Relation.EqvGen Respelled project project') :
    Document.assemble project r generatedAt = Document.assemble project' r generatedAt ∧
      Document.warnings project r = Document.warnings project' r := by
  induction h with
  | rel project project' h =>
    obtain ⟨blocks, events⟩ := (h.documented r known).1
    exact ⟨by rw [Document.assemble, Document.assemble, blocks], events⟩
  | refl => exact ⟨rfl, rfl⟩
  | symm _ _ _ ih => exact ⟨ih.1.symm, ih.2.symm⟩
  | trans _ _ _ _ _ first second => exact ⟨first.1.trans second.1, first.2.trans second.2⟩

/-- The release that wrote a project does not show: neither in declarations that are respelled in
any number of steps, in either direction, nor in the values that they are read from. -/
theorem assemble_respelled (r : Registry) (known : r.Known) (generatedAt : Timestamp) :
    (∀ project project', Relation.EqvGen Respelled project project' →
      Document.assemble project r generatedAt = Document.assemble project' r generatedAt ∧
        Document.warnings project r = Document.warnings project' r) ∧
    ∀ v w project, Relation.EqvGen Json.Respelled v w → Declaration.ofJson? v = some project →
      ∃ project', Declaration.ofJson? w = some project' ∧
        Document.assemble project r generatedAt = Document.assemble project' r generatedAt ∧
        Document.warnings project r = Document.warnings project' r := by
  refine ⟨documented_of_eqvGen r known generatedAt, fun v w project h read => ?_⟩
  have same := sameSpelt_of_eqvGen v w h
  rw [read] at same
  cases again : Declaration.ofJson? w with
  | none =>
    rw [again] at same
    cases same
  | some project' =>
    rw [again] at same
    obtain ⟨related⟩ := same
    exact ⟨project', rfl, documented_of_eqvGen r known generatedAt project project' related⟩

/-- An accessor with a label and one signature for getting, and a type alias with its parameters
under the older key. -/
def olderProject : Json :=
  .obj [("name", .str "p"), ("children", .arr
    [.obj [("name", .str "size"), ("kind", .ofInt 262144), ("kindString", .str "Accessor"),
        ("getSignature", .obj [("name", .str "size")])],
      .obj [("name", .str "Box"), ("kind", .ofInt 2097152),
        ("typeParameter", .arr [.obj [("name", .str "T")]])]])]

/-- The same project without the label, with an array of signatures and with the newer key. -/
def newerProject : Json :=
  .obj [("name", .str "p"), ("children", .arr
    [.obj [("name", .str "size"), ("kind", .ofInt 262144),
        ("getSignature", .arr [.obj [("name", .str "size")]])],
      .obj [("name", .str "Box"), ("kind", .ofInt 2097152),
        ("typeParameters", .arr [.obj [("name", .str "T")]])]])]

theorem respelled_newerProject : Relation.EqvGen Json.Respelled olderProject newerProject := by
  have label := Json.Respelled.kindString [("name", .str "size"), ("kind", .ofInt 262144)]
    [("getSignature", .obj [("name", .str "size")])] 262144 .accessor rfl (by decide) (by decide)
  have getter := Json.Respelled.accessor "getSignature" (by decide)
    [("name", .str "size"), ("kind", .ofInt 262144)] [] [("name", .str "size")]
  have generics := Json.Respelled.generics [("name", .str "Box"), ("kind", .ofInt 2097152)] []
    [("name", .str "Box"), ("kind", .ofInt 2097152)] [] (.arr [.obj [("name", .str "T")]]) rfl
    (by decide) (by decide)
  exact .trans _ _ _ (.rel _ _ (.member [("name", .str "p")] [] [] _ _ _ label))
    (.trans _ _ _ (.rel _ _ (.member [("name", .str "p")] [] [] _ _ _ getter))
      (.rel _ _ (.member [("name", .str "p")] [] [_] [] _ _ generics)))

theorem assemble_respelled_newerProject :
    Registry.default.Known ∧
    (let size := { Declaration.ofKind "size" .accessor with
        getSignature := some (.one { name := "size" }) }
      let size' := { size with getSignature := some (.many [{ name := "size" }]) }
      Relation.EqvGen Respelled size size' ∧
        Document.assemble size .default ⟨0, 0⟩ = Document.assemble size' .default ⟨0, 0⟩ ∧
        Document.warnings size .default = Document.warnings size' .default) ∧
    Relation.EqvGen Json.Respelled olderProject newerProject ∧
    ∃ project project', Declaration.ofJson? olderProject = some project ∧
      Declaration.ofJson? newerProject = some project' ∧
      Document.assemble project .default ⟨0, 0⟩ = Document.assemble project' .default ⟨0, 0⟩ ∧
      Document.warnings project .default = Document.warnings project' .default := by
  obtain ⟨records, values⟩ := assemble_respelled .default Registry.known_default ⟨0, 0⟩
  have step := Relation.EqvGen.rel _ _ (Respelled.getSignature
    { Declaration.ofKind "size" .accessor with getSignature := some (.one { name := "size" }) }
    { name := "size" } rfl)
  have accepted : (Declaration.ofJson? olderProject).isSome = true := by decide +kernel
  obtain ⟨project, read⟩ := Option.isSome_iff_exists.mp accepted
  obtain ⟨project', read', same⟩ := values _ _ project respelled_newerProject read
  exact ⟨Registry.known_default, ⟨step, records _ _ step⟩, respelled_newerProject,
    project, project', read, read', same⟩

end TsWorkshop
