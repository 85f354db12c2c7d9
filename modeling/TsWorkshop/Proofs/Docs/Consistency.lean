import TsWorkshop.Docs.Document
import TsWorkshop.Proofs.Docs.Fields
import TsWorkshop.Proofs.Docs.Walk
import TsWorkshop.Proofs.Reflection.Decoded
import TsWorkshop.Proofs.Reflection.Rendering

/-!
The types in a documentation file are consistent: the text beside a descriptor is what the
descriptor, read back from the file, renders to. Constructors have the tag of a descriptor in its
place. `Consistent` says so of a declaration and of the block that is written for it.
-/

namespace TsWorkshop

open Fields

/-! ### Types in a file -/

namespace Json

/-- A type with its text, the text being that of the descriptor beside it, or of no type if there
is none. The descriptor may be read as it stands or held by its content. -/
def SelfConsistent (pair : Json) : Prop :=
  ∃ text, pair.field? "value" = some (.str text) ∧
    renderOptional ((pair.field? "type").map Descriptor.ofJson) = text ∧
    renderOptional ((pair.field? "type").map fun type => Descriptor.ofJson type.canonical) = text

/-- `pair` is one of the types with their texts in a written signature. -/
inductive SignaturePair (signature pair : Json) : Prop
  | type (h : signature.field? "type" = some pair)
  | returned (h : signature.field? "return_type" = some pair)
  | parameter (parameters : List Json) (parameter : Json)
      (listed : signature.field? "params" = some (.arr parameters))
      (inside : parameter ∈ parameters) (h : parameter.field? "type" = some pair)

/-- `pair` is one of the types with their texts in a written block, without those of the blocks in
it. -/
inductive BlockPair (block pair : Json) : Prop
  | type (h : block.field? "type" = some pair)
  | signature (key : String) (place : key ∈ ["signatures", "getters", "setters"])
      (signatures : List Json) (signature : Json)
      (listed : block.field? key = some (.arr signatures)) (inside : signature ∈ signatures)
      (h : signature.SignaturePair pair)

/-- The blocks in a written block or documentation file. -/
def blocks (v : Json) : List Json := ((v.field? "children").bind items?).getD []

end Json

/-- The written signature of a constructor: one type, with its tag and its text. -/
def ConstructorSignature (s : Signature) (w : Json) : Prop :=
  ∃ type pair, s.type = some type ∧ w.field? "type" = some pair ∧
    pair.field? "value" = some (.str type.render) ∧
    pair.field? "type" = type.tag?.map .str ∧
    ∀ other, w.SignaturePair other → other = pair

/-- The types in a written block, and in the blocks in it, agree with their texts. -/
inductive Consistent (r : Registry) : Declaration → Json → Prop
  | container (d : Declaration) (w : Json) (kind : d.declaredKind.isContainer = true)
      (untyped : ∀ pair, ¬ w.BlockPair pair)
      (members : List.Forall₂ (Consistent r) d.members w.blocks) : Consistent r d w
  /-- Signatures without a type are left out. -/
  | constructor (d : Declaration) (w : Json) (signatures : List Json)
      (kind : d.declaredKind.isContainer = false)
      (served : r.find? d.declaredKind = some Serializer.constructor)
      (listed : w.field? "signatures" = some (.arr signatures))
      (each : List.Forall₂ ConstructorSignature
        ((d.signatures.getD []).filter fun s => s.type.isSome) signatures)
      (only : ∀ pair, w.BlockPair pair → ∃ s ∈ signatures, s.SignaturePair pair)
      (childless : w.blocks = []) : Consistent r d w
  | other (d : Declaration) (w : Json) (kind : d.declaredKind.isContainer = false)
      (served : r.find? d.declaredKind ≠ some Serializer.constructor)
      (each : ∀ pair, w.BlockPair pair → pair.SelfConsistent)
      (childless : w.blocks = []) : Consistent r d w

/-! ### Pairs -/

theorem TypeBlock.field?_type (b : TypeBlock) :
    b.toJson.field? "type" = b.summary.map summaryToJson :=
  b.field?_of_mem "type" _ (by simp [fields])

theorem TypeBlock.field?_value (b : TypeBlock) : b.toJson.field? "value" = some (.str b.value) :=
  b.field?_of_mem "value" _ (by simp [fields])

/-- A descriptor that came out of JSON is read back as it was written. -/
theorem Descriptor.ofJson_toJson_of_decoded (t : Descriptor) (h : Decoded Descriptor.ofJson? t) :
    ofJson t.toJson = t ∧ ofJson t.toJson.canonical = t.canonical := by
  obtain ⟨v, unique, read⟩ := h
  obtain rfl : ofJson v = t := Option.some.inj read
  have again := ofJson_toJson v
  refine ⟨again, ?_⟩
  rw [ofJson_canonical _ (((preserved v).type _ rfl).unique unique), again]

theorem TypeBlock.selfConsistent_describe (type : Option Descriptor)
    (h : ∀ t, type = some t → Decoded Descriptor.ofJson? t) :
    (describe type).toJson.SelfConsistent := by
  refine ⟨renderOptional type, field?_value _, ?_⟩
  rw [field?_type]
  cases type with
  | none => exact ⟨rfl, rfl⟩
  | some t =>
    obtain ⟨plain, content⟩ := t.ofJson_toJson_of_decoded (h t rfl)
    refine ⟨congrArg Descriptor.render plain, ?_⟩
    calc (Descriptor.ofJson t.toJson.canonical).render
        = t.canonical.render := congrArg Descriptor.render content
      _ = t.render := t.render_canonical

/-- The types in a written signature: its type, the type that it returns, and those of its
parameters. -/
def SignatureBlock.types (b : SignatureBlock) : List TypeBlock :=
  b.type :: (b.returnType.toList ++ (b.params.getD []).map ParameterBlock.type)

theorem SignatureBlock.exists_of_signaturePair (b : SignatureBlock) (pair : Json)
    (h : b.toJson.SignaturePair pair) : ∃ type ∈ b.types, type.toJson = pair := by
  cases h with
  | type h =>
    rw [b.field?_of_mem "type" (some b.type.toJson) (by simp [fields]), Option.some.injEq] at h
    exact ⟨b.type, List.mem_cons_self, h⟩
  | returned h =>
    rw [b.field?_of_mem "return_type" _ (by simp [fields]; rfl)] at h
    obtain ⟨type, there, rfl⟩ := Option.map_eq_some_iff.mp h
    exact ⟨type, by simp [types, there], rfl⟩
  | parameter parameters parameter listed inside h =>
    rw [b.field?_of_mem "params" _ (by simp [fields]; rfl)] at listed
    obtain ⟨ps, there, same⟩ := Option.map_eq_some_iff.mp listed
    cases same
    obtain ⟨p, mem, rfl⟩ := List.mem_map.mp inside
    rw [p.field?_of_mem "type" (some p.type.toJson) (by simp [ParameterBlock.fields]),
      Option.some.injEq] at h
    refine ⟨p.type, ?_, h⟩
    simp only [types, there, Option.getD_some, List.mem_cons, List.mem_append]
    exact Or.inr (Or.inr (List.mem_map_of_mem mem))

theorem Signature.selfConsistent_toBlock (s : Signature) (h : Decoded Signature.ofJson? s)
    (type : TypeBlock) (inside : type ∈ s.toBlock.types) : type.toJson.SelfConsistent := by
  have parts := s.decodedParts h
  have returns := TypeBlock.selfConsistent_describe _ parts.type
  simp only [SignatureBlock.types, toBlock, List.mem_cons, Option.toList_some, List.mem_append,
    List.not_mem_nil, or_false, List.mem_map] at inside
  rcases inside with rfl | rfl | ⟨block, listed, rfl⟩
  · exact returns
  · exact returns
  · cases there : s.parameters with
    | none => simp [there] at listed
    | some ps =>
      simp only [there, Option.map_some, Option.getD_some, List.mem_map] at listed
      obtain ⟨p, listed, rfl⟩ := listed
      exact TypeBlock.selfConsistent_describe _
        (p.decoded_parts (parts.parameters ps there p listed)).1

theorem Signature.constructorSignature (s : Signature) (type : Descriptor)
    (typed : s.type = some type) :
    ∃ block, s.toConstructorBlock? = some block ∧ ConstructorSignature s block.toJson := by
  refine ⟨_, by rw [toConstructorBlock?, typed]; rfl, type, (TypeBlock.tagged type).toJson, typed,
    SignatureBlock.field?_of_mem _ "type" _ (by simp [SignatureBlock.fields]),
    TypeBlock.field?_value _, ?_, fun other there => ?_⟩
  · rw [TypeBlock.field?_type]
    cases tag : type.tag? <;> simp [TypeBlock.tagged, tag, TypeBlock.summaryToJson]
  · obtain ⟨only, inside, rfl⟩ := SignatureBlock.exists_of_signaturePair _ _ there
    simp only [SignatureBlock.types, Option.toList_none, Option.getD_none, List.map_nil,
      List.append_nil, List.mem_singleton] at inside
    rw [inside]

/-! ### Blocks -/

namespace Fragment

/-- The signatures in a fragment. -/
def signatureBlocks : Fragment → List SignatureBlock
  | .signatures blocks => blocks
  | .accessor getters setters => getters.getD [] ++ setters.getD []
  | _ => []

/-- The type in a fragment, outside its signatures. -/
def ownType? : Fragment → Option TypeBlock
  | .typed type _ => type
  | .typeAlias _ type _ => some type
  | _ => none

theorem toJson_ownType (f : Fragment) (pair : Json) (h : Assoc.get? "type" f.members = some pair) :
    ∃ type, f.ownType? = some type ∧ type.toJson = pair := by
  rw [f.members_eq] at h
  have listed := mem_of_get?_fields f.fields "type" pair h
  cases f with
  | container | signatures | enum | accessor => simp [Fragment.fields] at listed
  | typed type value => simpa [Fragment.fields, ownType?, eq_comm] using listed
  | typeAlias names type text => exact ⟨type, rfl, by simpa [Fragment.fields, eq_comm] using listed⟩

theorem toJson_signatureBlocks (f : Fragment) (key : String)
    (place : key ∈ ["signatures", "getters", "setters"]) (signatures : List Json)
    (h : Assoc.get? key f.members = some (.arr signatures)) (w : Json) (inside : w ∈ signatures) :
    ∃ b ∈ f.signatureBlocks, b.toJson = w := by
  rw [f.members_eq] at h
  have listed := mem_of_get?_fields f.fields key _ h
  have origin : ∃ blocks, signatures = blocks.map SignatureBlock.toJson ∧
      blocks ⊆ f.signatureBlocks := by
    simp only [List.mem_cons, List.not_mem_nil, or_false] at place
    cases f with
    | container | typed | enum | typeAlias =>
      rcases place with rfl | rfl | rfl <;> simp [Fragment.fields] at listed
    | signatures blocks =>
      have same : signatures = blocks.map SignatureBlock.toJson := by
        simp only [Fragment.fields, signatureBlocksToJson, List.mem_singleton, Prod.mk.injEq,
          Option.some.injEq, Json.arr.injEq] at listed
        exact listed.2
      exact ⟨blocks, same, List.Subset.refl _⟩
    | accessor getters setters =>
      rcases place with rfl | rfl | rfl
      · simp [Fragment.fields] at listed
      · cases getters <;> simp [Fragment.fields, signatureBlocksToJson] at listed
        exact ⟨_, listed, by simp [signatureBlocks]⟩
      · cases setters <;> simp [Fragment.fields, signatureBlocksToJson] at listed
        exact ⟨_, listed, by simp [signatureBlocks]⟩
  obtain ⟨blocks, rfl, included⟩ := origin
  obtain ⟨b, there, rfl⟩ := List.mem_map.mp inside
  exact ⟨b, included there, rfl⟩

end Fragment

/-- The types in a block are the type in its fragment and those in its signatures. -/
theorem Block.exists_of_blockPair (b : Block) (pair : Json) (h : b.toJson.BlockPair pair) :
    ∃ f, b.fragment = some f ∧
      ((∃ type, f.ownType? = some type ∧ type.toJson = pair) ∨
        ∃ s ∈ f.signatureBlocks, s.toJson.SignaturePair pair) := by
  cases h with
  | type h =>
    rw [b.field?_fragment "type" (by simp [heading])] at h
    obtain ⟨f, there, h⟩ := Option.bind_eq_some_iff.mp h
    exact ⟨f, there, Or.inl (f.toJson_ownType pair h)⟩
  | signature key place signatures signature listed inside h =>
    have other : key ∉ b.heading.map Prod.fst := by
      simp only [List.mem_cons, List.not_mem_nil, or_false] at place
      rcases place with rfl | rfl | rfl <;> simp [heading]
    rw [b.field?_fragment key other] at listed
    obtain ⟨f, there, listed⟩ := Option.bind_eq_some_iff.mp listed
    obtain ⟨s, mem, rfl⟩ :=
      f.toJson_signatureBlocks key place signatures listed signature inside
    exact ⟨f, there, Or.inr ⟨s, mem, h⟩⟩

/-! ### Serializers -/

/-- Where the types in a fragment come from, other than in one of a constructor: its own type from
that of the declaration, its signatures from decoded signatures. -/
structure Fragment.Described (d : Declaration) (f : Fragment) : Prop where
  own : ∀ type, f.ownType? = some type → type = .describe d.type
  signatures : ∀ block ∈ f.signatureBlocks, ∃ s, Decoded Signature.ofJson? s ∧ s.toBlock = block

theorem Fragment.Described.selfConsistent (d : Declaration) (h : Decoded Declaration.ofJson? d)
    (f : Fragment) (described : f.Described d) :
    (∀ type, f.ownType? = some type → type.toJson.SelfConsistent) ∧
      ∀ block ∈ f.signatureBlocks, ∀ type ∈ block.types, type.toJson.SelfConsistent := by
  constructor
  · intro type there
    rw [described.own type there]
    exact TypeBlock.selfConsistent_describe _ (d.decodedParts h).type
  · intro block inside type there
    obtain ⟨s, decoded, rfl⟩ := described.signatures block inside
    exact s.selfConsistent_toBlock decoded type there

theorem exists_of_mem_toBlock (ss : List Signature) (each : ∀ s ∈ ss, Decoded Signature.ofJson? s)
    (block : SignatureBlock) (inside : block ∈ ss.map Signature.toBlock) :
    ∃ s, Decoded Signature.ofJson? s ∧ s.toBlock = block := by
  obtain ⟨s, declared, rfl⟩ := List.mem_map.mp inside
  exact ⟨s, each s declared, rfl⟩

theorem exists_of_mem_accessorBlocks (ss : Option (OneOrMany Signature))
    (each : ∀ s, ss = some s → ∀ x ∈ s.toList, Decoded Signature.ofJson? x)
    (block : SignatureBlock)
    (inside : block ∈ (ss.map fun s => Serializer.accessorBlocks s.toList).getD []) :
    ∃ s, Decoded Signature.ofJson? s ∧ s.toBlock = block := by
  cases ss with
  | none => simp at inside
  | some s => exact exists_of_mem_toBlock s.toList (each s rfl) block inside

theorem Serializer.described_fragment (s : Serializer) (listed : s.Listed)
    (other : s ≠ Serializer.constructor) (d : Declaration) (h : Decoded Declaration.ofJson? d) :
    (s.fragment d).Described d := by
  have parts := d.decodedParts h
  have signatures := exists_of_mem_toBlock _ parts.signatures
  cases listed with
  | constructor => exact absurd rfl other
  | method => exact ⟨by simp [method, Fragment.ownType?], signatures⟩
  | function => exact ⟨by simp [function, Fragment.ownType?], signatures⟩
  | variableDecl =>
    constructor <;> simp [variableDecl, Fragment.ownType?, Fragment.signatureBlocks]
  | property => constructor <;> simp [property, Fragment.ownType?, Fragment.signatureBlocks]
  | enum => constructor <;> simp [enum, Fragment.ownType?, Fragment.signatureBlocks]
  | typeAlias => constructor <;> simp [typeAlias, Fragment.ownType?, Fragment.signatureBlocks]
  | accessor =>
    refine ⟨by simp [accessor, Fragment.ownType?], fun block inside => ?_⟩
    rcases List.mem_append.mp inside with inside | inside
    · exact exists_of_mem_accessorBlocks _ parts.getSignature block inside
    · exact exists_of_mem_accessorBlocks _ parts.setSignature block inside

/-- The typed signatures of a constructor are written in order. -/
theorem forall₂_constructorSignature (ss : List Signature) :
    List.Forall₂ ConstructorSignature (ss.filter fun s => s.type.isSome)
      ((ss.filterMap Signature.toConstructorBlock?).map SignatureBlock.toJson) := by
  induction ss with
  | nil => exact .nil
  | cons s rest ih =>
    cases typed : s.type with
    | none =>
      have skipped : s.toConstructorBlock? = none := by simp [Signature.toConstructorBlock?, typed]
      simpa [typed, skipped] using ih
    | some type =>
      obtain ⟨block, written, here⟩ := s.constructorSignature type typed
      simp only [List.filter_cons, typed, Option.isSome_some, if_true, List.filterMap_cons, written,
        List.map_cons]
      exact .cons here ih

/-! ### The walk -/

theorem Block.blocks_toJson (d : Declaration) (b : Block) (h : Documents d b) :
    b.toJson.blocks = b.children.map Block.toJson := by
  cases h with
  | container _ _ kind heading children listed =>
    rw [Json.blocks, listed, ← blocksToJson_eq_map]
    by_cases none : d.members = []
    · rw [none] at children
      cases h : b.children with
      | nil => simp [none, blocksToJson]
      | cons first rest => rw [h] at children; cases children
    · simp [none, Json.items?]
  | other _ _ kind heading childless unlisted => simp [Json.blocks, unlisted, childless]

section Step

variable (r : Registry) (known : r.Known) (d : Declaration)
  (kind : d.declaredKind.isContainer = false)

include known kind

theorem Declaration.blocks_toBlock_other : (d.toBlock r).toJson.blocks = [] := by
  rw [Block.blocks_toJson d _ (documents_toBlock r known d), children_toBlock_other r known d kind,
    List.map_nil]

theorem Declaration.consistent_constructor
    (served : r.find? d.declaredKind = some Serializer.constructor) :
    Consistent r d (d.toBlock r).toJson := by
  have childless := d.blocks_toBlock_other r known kind
  have written : (d.toBlock r).fragment =
      some (.signatures ((d.signatures.getD []).filterMap Signature.toConstructorBlock?)) := by
    rw [toBlock_other r d kind, served]
    rfl
  have listed := (d.toBlock r).field?_of_mem "signatures"
    (some (signatureBlocksToJson ((d.signatures.getD []).filterMap Signature.toConstructorBlock?)))
    (by simp [Block.fields, written, Fragment.fields])
  refine Consistent.constructor d _ _ kind served listed (forall₂_constructorSignature _)
    (fun pair there => ?_) childless
  obtain ⟨f, same, inside⟩ := (d.toBlock r).exists_of_blockPair pair there
  obtain rfl := Option.some.inj (written.symm.trans same)
  rcases inside with ⟨type, own, -⟩ | ⟨block, mem, inside⟩
  · cases own
  · exact ⟨block.toJson, List.mem_map_of_mem mem, inside⟩

theorem Declaration.consistent_other (h : Decoded Declaration.ofJson? d)
    (served : r.find? d.declaredKind ≠ some Serializer.constructor) :
    Consistent r d (d.toBlock r).toJson := by
  refine Consistent.other d _ kind served (fun pair there => ?_)
    (d.blocks_toBlock_other r known kind)
  obtain ⟨f, written, inside⟩ := (d.toBlock r).exists_of_blockPair pair there
  obtain ⟨s, found, listed, rfl⟩ := d.fragment_other r known kind f written
  have other : s ≠ Serializer.constructor := fun same => served (same ▸ found)
  obtain ⟨own, signatures⟩ := (s.described_fragment listed other d h).selfConsistent d h
  rcases inside with ⟨type, here, rfl⟩ | ⟨block, mem, inside⟩
  · exact own type here
  · obtain ⟨type, here, rfl⟩ := block.exists_of_signaturePair pair inside
    exact signatures block mem type here

end Step

/-- A container has no types of its own. -/
theorem Declaration.not_blockPair_container (r : Registry) (d : Declaration)
    (kind : d.declaredKind.isContainer = true) (pair : Json) :
    ¬ (d.toBlock r).toJson.BlockPair pair := by
  intro there
  obtain ⟨f, written, inside⟩ := (d.toBlock r).exists_of_blockPair pair there
  obtain rfl := d.fragment_container r kind f written
  simp [Fragment.ownType?, Fragment.signatureBlocks] at inside

theorem Declaration.consistent_toBlock (r : Registry) (known : r.Known) (d : Declaration)
    (h : Decoded Declaration.ofJson? d) : Consistent r d (d.toBlock r).toJson := by
  induction d using Declaration.induction_on_members with
  | step d ih =>
    cases kind : d.declaredKind.isContainer with
    | true =>
      refine Consistent.container d _ kind (d.not_blockPair_container r kind) ?_
      rw [Block.blocks_toJson d _ (documents_toBlock r known d),
        children_toBlock_container r d kind, blocksOf_eq_map, List.map_map,
        List.forall₂_map_right_iff, List.forall₂_same]
      exact fun member inside => ih member inside ((d.decodedParts h).members member inside)
    | false =>
      by_cases served : r.find? d.declaredKind = some Serializer.constructor
      · exact d.consistent_constructor r known kind served
      · exact d.consistent_other r known kind h served

/-- The types in the documentation file of a project that comes out of JSON agree with their texts,
at every depth. -/
theorem consistent_assemble (project : Declaration)
    (origin : FromJson Declaration.ofText Declaration.ofJson? project) (r : Registry)
    (known : r.Known) (generatedAt : Timestamp) :
    List.Forall₂ (Consistent r) project.members
      (Document.assemble project r generatedAt).toJson.blocks := by
  have parts := project.decodedParts (project.decoded origin)
  have listed : (Document.assemble project r generatedAt).toJson.blocks =
      project.members.map fun d => (d.toBlock r).toJson := by
    simp only [Json.blocks, Document.toJson, Json.field?, Document.assemble, blocksToJson_eq_map,
      blocksOf_eq_map, List.map_map, Assoc.get?_cons]
    rfl
  rw [listed, List.forall₂_map_right_iff, List.forall₂_same]
  exact fun d inside => d.consistent_toBlock r known (parts.members d inside)

/-- A variable whose type has a malformed part and members without a field, and a constructor with
a typed and an untyped signature. -/
def typedProject : Json :=
  .obj [("name", .str "p"), ("children", .arr
    [.obj [("name", .str "limit"), ("kindString", .str "Variable"),
        ("type", .obj [("type", .str "union"), ("sources", .arr []), ("types", .arr
          [.obj [("type", .str "intrinsic"), ("name", .str "string")],
            .obj [("type", .str "array")]])])],
      .obj [("name", .str "constructor"), ("kindString", .str "Constructor"), ("signatures", .arr
        [.obj [("name", .str "new A"),
            ("type", .obj [("type", .str "reference"), ("name", .str "A"), ("package", .null)])],
          .obj [("name", .str "new B")]])]])]

theorem consistent_assemble_typed : ∃ project,
    Declaration.ofJson? typedProject.canonical = some project ∧ Registry.default.Known ∧
    List.Forall₂ (Consistent .default) project.members
      (Document.assemble project .default ⟨0, 0⟩).toJson.blocks := by
  have accepted : (Declaration.ofJson? typedProject.canonical).isSome = true := by decide +kernel
  obtain ⟨project, h⟩ := Option.isSome_iff_exists.mp accepted
  exact ⟨project, h, Registry.known_default,
    consistent_assemble project (.content _ h) .default Registry.known_default ⟨0, 0⟩⟩

end TsWorkshop
