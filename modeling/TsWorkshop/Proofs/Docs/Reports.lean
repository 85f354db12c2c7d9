import TsWorkshop.Docs.Document
import TsWorkshop.Proofs.Docs.Walk

/-!
What is reported while a project is documented. `Sifted` accounts for the signatures of a
constructor: each is either written or reported. `Reported` accounts for a declaration, and
`warnings_assemble` for a whole project: the events are those of the walked declarations in
pre-order, each reported once.
-/

namespace TsWorkshop

/-- The declared signatures of the constructor called `name` in order, each of them either written
as a block or reported by an event. -/
inductive Sifted (name : String) : List Signature → List SignatureBlock → List Event → Prop
  | nil : Sifted name [] [] []
  | written (s : Signature) (type : Descriptor) (ss : List Signature)
      (blocks : List SignatureBlock) (events : List Event) (typed : s.type = some type)
      (rest : Sifted name ss blocks events) :
      Sifted name (s :: ss)
        ({ type := .tagged type, asString := s.name ++ s.parameterList
           params := none, returnType := none, comment := s.comment } :: blocks)
        events
  | reported (s : Signature) (ss : List Signature) (blocks : List SignatureBlock)
      (events : List Event) (typeless : s.type = none) (rest : Sifted name ss blocks events) :
      Sifted name (s :: ss) blocks
        ({ level := .warn, target := "tanuki::serialization::constructor"
           message := "Unable to retrieve type for constructor signature, skipping"
           fields := [("constructor", name), ("signature", s.toJson.compact)] } :: events)

/-- What is reported about a declaration that is documented by the block `b`. -/
inductive Reported (r : Registry) (d : Declaration) (b : Block) : List Event → Prop
  | container (kind : d.declaredKind.isContainer = true) : Reported r d b []
  | unserved (kind : d.declaredKind.isContainer = false)
      (missing : r.find? d.declaredKind = none) :
      Reported r d b
        [{ level := .warn, target := "tanuki::docs"
           message := "Unknown " ++ d.kindLabel ++ ": " ++ d.name }]
  /-- What was written and what was reported together are the declared signatures. -/
  | constructor (blocks : List SignatureBlock) (events : List Event)
      (kind : d.declaredKind.isContainer = false)
      (served : r.find? d.declaredKind = some Serializer.constructor)
      (written : b.fragment = some (.signatures blocks))
      (sifted : Sifted d.name (d.signatures.getD []) blocks events)
      (all : blocks.length + events.length = (d.signatures.getD []).length) : Reported r d b events
  | served (s : Serializer) (kind : d.declaredKind.isContainer = false)
      (served : r.find? d.declaredKind = some s) (other : s ≠ Serializer.constructor) :
      Reported r d b []

/-! ### Constructors -/

theorem Sifted.length_eq (name : String) (ss : List Signature) (blocks : List SignatureBlock)
    (events : List Event) (h : Sifted name ss blocks events) :
    blocks.length + events.length = ss.length := by
  induction h with
  | nil => rfl
  | written | reported =>
    simp only [List.length_cons]
    omega

/-- The signatures of a constructor are sifted by whether they have a type. -/
theorem sifted_constructor (name : String) (ss : List Signature) :
    Sifted name ss (ss.filterMap Signature.toConstructorBlock?)
      ((ss.filter fun s => s.type.isNone).map (Serializer.typelessSignature name)) := by
  induction ss with
  | nil => exact Sifted.nil
  | cons s rest ih =>
    cases typed : s.type with
    | none =>
      have skipped : s.toConstructorBlock? = none := by simp [Signature.toConstructorBlock?, typed]
      simpa [skipped, typed, Serializer.typelessSignature] using Sifted.reported s rest _ _ typed ih
    | some type =>
      have block := Sifted.written s type rest _ _ typed ih
      simpa [Signature.toConstructorBlock?, typed] using block

/-! ### One declaration -/

/-- The events about a declaration itself, without those about its members. -/
def Declaration.ownWarnings (r : Registry) (d : Declaration) : List Event :=
  if d.declaredKind.isContainer then []
  else
    match r.find? d.declaredKind with
    | some s => s.events d
    | none => [undocumented d]

theorem Declaration.warnings_container (r : Registry) (d : Declaration)
    (kind : d.declaredKind.isContainer = true) : d.warnings r = warningsOf r d.members := by
  obtain ⟨id, name, rawKind, label, comment, children, _⟩ := d
  cases children <;> simp [Declaration.warnings, Declaration.members, kind, warningsOf]

theorem Declaration.warnings_other (r : Registry) (d : Declaration)
    (kind : d.declaredKind.isContainer = false) : d.warnings r = d.ownWarnings r := by
  cases served : r.find? d.declaredKind <;>
  · obtain ⟨id, name, rawKind, label, comment, children, _⟩ := d
    cases children <;> simp [Declaration.warnings, Declaration.ownWarnings, kind, served]

/-- No known serializer but that of constructors reports anything. -/
theorem Serializer.events_eq_nil (s : Serializer) (listed : s.Listed)
    (other : s ≠ Serializer.constructor) (d : Declaration) : s.events d = [] := by
  cases listed with
  | constructor => exact absurd rfl other
  | method | function | variableDecl | property | enum | typeAlias | accessor => rfl

/-- One step of the walk: the events about a declaration are those that its block leaves out. -/
theorem reported_ownWarnings (r : Registry) (known : r.Known) (d : Declaration) :
    Reported r d (d.toBlock r) (d.ownWarnings r) := by
  cases kind : d.declaredKind.isContainer with
  | true =>
    simp only [Declaration.ownWarnings, kind, if_true]
    exact Reported.container kind
  | false =>
    simp only [Declaration.ownWarnings, kind, Bool.false_eq_true, if_false]
    cases served : r.find? d.declaredKind with
    | none => exact Reported.unserved kind served
    | some s =>
      by_cases same : s = Serializer.constructor
      · subst same
        have sifted := sifted_constructor d.name (d.signatures.getD [])
        refine Reported.constructor _ _ kind served ?_ sifted (sifted.length_eq _ _ _ _)
        rw [Declaration.toBlock_other r d kind, served]
        rfl
      · simp only [s.events_eq_nil (known.listed r _ s served) same d]
        exact Reported.served s kind served same

/-! ### The walk -/

/-- The events of a walk are those about each walked declaration, in pre-order. -/
theorem Declaration.warnings_eq (r : Registry) (d : Declaration) :
    d.warnings r = d.walked.flatMap (Declaration.ownWarnings r) := by
  induction d using Declaration.induction_on_members with
  | step d ih =>
    cases kind : d.declaredKind.isContainer with
    | true =>
      have silent : d.ownWarnings r = [] := by simp [Declaration.ownWarnings, kind]
      rw [warnings_container r d kind, walked_container d kind, List.flatMap_cons, silent,
        List.nil_append, warningsOf_eq_flatMap, walkedAll_eq_flatMap, List.flatMap_assoc]
      exact List.flatMap_congr ih
    | false =>
      rw [warnings_other r d kind, walked_other d kind]
      simp

/-- The events of documenting a project, declaration by declaration in pre-order, beside the blocks
of the documentation file, one for each walked declaration in the same order. Each declaration is
reported for exactly what its block leaves out. -/
theorem warnings_assemble (project : Declaration) (r : Registry) (known : r.Known)
    (generatedAt : Timestamp) :
    ∃ entries : List (Block × List Event),
      List.Forall₂ (fun d entry => Reported r d entry.1 entry.2) (walkedAll project.members)
        entries ∧
      preorderAll (Document.assemble project r generatedAt).children = entries.map Prod.fst ∧
      Document.warnings project r = entries.flatMap Prod.snd := by
  refine ⟨(walkedAll project.members).map fun d => (d.toBlock r, d.ownWarnings r), ?_, ?_, ?_⟩
  · rw [List.forall₂_map_right_iff, List.forall₂_same]
    exact fun d _ => reported_ownWarnings r known d
  · rw [List.map_map]
    exact preorder_blocksOf r known project.members
  · rw [Document.warnings, warningsOf_eq_flatMap, walkedAll_eq_flatMap, List.flatMap_map,
      List.flatMap_assoc]
    exact List.flatMap_congr fun d _ => d.warnings_eq r

/-- A class with a constructor of two signatures, one of them without a type, and an unknown
declaration behind it. -/
theorem warnings_assemble_typeless :
    let typed : Signature := { name := "new Client", type := some (.intrinsic "Client" []) }
    let build := { Declaration.ofKind "constructor" .constructor with
      signatures := some [{ name := "new Broken" }, typed] }
    let client := { Declaration.ofKind "Client" .classType with children := some [build] }
    let project := { Declaration.ofKind "index" .project with
      children := some [client, Declaration.ofKind "legacy" .reference] }
    let r := Registry.empty.register .constructor Serializer.constructor
    r.Known ∧
      ∃ entries : List (Block × List Event),
        List.Forall₂ (fun d entry => Reported r d entry.1 entry.2) (walkedAll project.members)
          entries ∧
        preorderAll (Document.assemble project r ⟨0, 0⟩).children = entries.map Prod.fst ∧
        Document.warnings project r = entries.flatMap Prod.snd :=
  have known := Registry.known_empty.register Registry.empty .constructor "Constructor"
    Serializer.constructor (by simp [Serializer.named])
  ⟨known, warnings_assemble _ _ known _⟩

end TsWorkshop
