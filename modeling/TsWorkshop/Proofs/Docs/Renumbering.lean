import TsWorkshop.Proofs.Docs.Walk
import TsWorkshop.Proofs.Reflection.Rendering

/-!
What a documentation file does not show. Reflecting the same project again gives other ids, and
other flags and sources among the members that a record has no field for. Forgetting these in a
project forgets them in the descriptors embedded in its documentation, and does nothing else to it
(`Document.assemble_modelled`). So two projects that differ in nothing else have the same
documentation but for the embedded descriptors (`assemble_renumbered`).
-/

namespace TsWorkshop

/-! ### What is modelled -/

/-- The revision that leaves what is modelled: no ids and no members without a field. A descriptor
that is not recognized has nothing but its tag; comments are as they were. -/
def Revision.modelled : Revision where
  id := fun _ => none
  extra := fun _ => []
  comment := fun c => c
  raw := fun v =>
    match Tag.textIn? v with
    | some tag => .obj [("type", .str tag)]
    | none => .null

theorem Revision.textIn?_raw_modelled (v : Json) :
    Tag.textIn? (Revision.modelled.raw v) = Tag.textIn? v := by
  unfold Revision.modelled
  dsimp only
  split
  · rename_i tag there
    rw [there]
    rfl
  · rename_i none
    rw [none]
    rfl

theorem Revision.map_comment_modelled (c : Option Comment) :
    c.map Revision.modelled.comment = c := Option.map_id'

theorem Descriptor.tag?_modelled (d : Descriptor) : (d.revised .modelled).tag? = d.tag? := by
  cases d with
  | unrecognized raw =>
    rw [Descriptor.revised]
    exact Revision.textIn?_raw_modelled raw
  | _ => simp [Descriptor.revised, Descriptor.tag?, Descriptor.kind?]

/-- Two projects that differ only in ids and in members without a field, at any depth. -/
def Declaration.Renumbered (d d' : Declaration) : Prop :=
  d.revised .modelled = d'.revised .modelled

/-- Two descriptors that differ only in ids and in members without a field, at any depth. -/
def Descriptor.Renumbered (d d' : Descriptor) : Prop :=
  d.revised .modelled = d'.revised .modelled

/-! ### Embedded descriptors -/

section MapTypes

variable (f : Descriptor → Descriptor)

/-- The type with another descriptor, if it has one. -/
def TypeSummary.map : TypeSummary → TypeSummary
  | .tag text => .tag text
  | .descriptor d => .descriptor (f d)

def TypeBlock.mapTypes (b : TypeBlock) : TypeBlock :=
  { b with summary := b.summary.map (TypeSummary.map f) }

def ParameterBlock.mapTypes (b : ParameterBlock) : ParameterBlock :=
  { b with type := b.type.mapTypes f }

def SignatureBlock.mapTypes (b : SignatureBlock) : SignatureBlock :=
  { b with
    type := b.type.mapTypes f
    params := b.params.map (List.map (ParameterBlock.mapTypes f))
    returnType := b.returnType.map (TypeBlock.mapTypes f) }

mutual

def Fragment.mapTypes : Fragment → Fragment
  | .container children => .container (mapTypesAll children)
  | .signatures signatures => .signatures (signatures.map (SignatureBlock.mapTypes f))
  | .typed type defaultValue => .typed (type.map (TypeBlock.mapTypes f)) defaultValue
  | .enum members => .enum members
  | .typeAlias typeParams type asString => .typeAlias typeParams (type.mapTypes f) asString
  | .accessor getters setters =>
    .accessor (getters.map (List.map (SignatureBlock.mapTypes f)))
      (setters.map (List.map (SignatureBlock.mapTypes f)))

/-- The block with other embedded descriptors, also in the blocks in it. -/
def Block.mapTypes : Block → Block
  | { name, kind, comment, fragment } =>
    { name, kind, comment
      fragment := match fragment with | none => none | some fragment => some fragment.mapTypes }

def mapTypesAll : List Block → List Block
  | [] => []
  | b :: rest => b.mapTypes :: mapTypesAll rest

end

theorem mapTypesAll_eq_map (blocks : List Block) :
    mapTypesAll f blocks = blocks.map (Block.mapTypes f) := by
  induction blocks with
  | nil => rfl
  | cons b rest ih => rw [mapTypesAll, ih, List.map_cons]

theorem Block.mapTypes_eq (b : Block) :
    b.mapTypes f = { b with fragment := b.fragment.map (Fragment.mapTypes f) } := by
  obtain ⟨name, kind, comment, fragment⟩ := b
  cases fragment <;> rfl

/-- The documentation with other embedded descriptors. -/
def Document.mapTypes (d : Document) : Document := { d with children := mapTypesAll f d.children }

end MapTypes

/-- The documentation without the embedded descriptors. -/
def Document.withoutTypes (d : Document) : Document := d.mapTypes fun _ => .unrecognized .null

section Comp

variable (f g : Descriptor → Descriptor)

theorem TypeBlock.mapTypes_mapTypes (b : TypeBlock) :
    (b.mapTypes f).mapTypes g = b.mapTypes (g ∘ f) := by
  obtain ⟨summary, value⟩ := b
  rcases summary with _ | (tag | d) <;> rfl

theorem TypeBlock.mapTypes_comp : mapTypes g ∘ mapTypes f = mapTypes (g ∘ f) :=
  funext (mapTypes_mapTypes f g)

theorem ParameterBlock.mapTypes_comp : mapTypes g ∘ mapTypes f = mapTypes (g ∘ f) := by
  funext b
  unfold mapTypes
  rw [Function.comp_apply, TypeBlock.mapTypes_mapTypes]

theorem SignatureBlock.mapTypes_comp : mapTypes g ∘ mapTypes f = mapTypes (g ∘ f) := by
  funext b
  unfold mapTypes
  simp only [Function.comp_apply, TypeBlock.mapTypes_mapTypes, Option.map_map,
    TypeBlock.mapTypes_comp, List.map_comp_map, ParameterBlock.mapTypes_comp]

mutual

theorem Fragment.mapTypes_mapTypes : ∀ b : Fragment,
    (b.mapTypes f).mapTypes g = b.mapTypes (g ∘ f)
  | .container children => by simp only [Fragment.mapTypes, mapTypesAll_mapTypesAll children]
  | .signatures signatures => by
    simp only [Fragment.mapTypes, List.map_map, SignatureBlock.mapTypes_comp]
  | .typed type _ => by simp only [Fragment.mapTypes, Option.map_map, TypeBlock.mapTypes_comp]
  | .enum _ => rfl
  | .typeAlias _ type _ => by simp only [Fragment.mapTypes, TypeBlock.mapTypes_mapTypes]
  | .accessor getters setters => by
    simp only [Fragment.mapTypes, Option.map_map, List.map_comp_map, SignatureBlock.mapTypes_comp]

theorem Block.mapTypes_mapTypes : ∀ b : Block, (b.mapTypes f).mapTypes g = b.mapTypes (g ∘ f)
  | ⟨_, _, _, none⟩ => rfl
  | ⟨_, _, _, some fragment⟩ => by simp only [Block.mapTypes, fragment.mapTypes_mapTypes]

theorem mapTypesAll_mapTypesAll : ∀ blocks : List Block,
    mapTypesAll g (mapTypesAll f blocks) = mapTypesAll (g ∘ f) blocks
  | [] => rfl
  | b :: rest => by simp only [mapTypesAll, b.mapTypes_mapTypes, mapTypesAll_mapTypesAll rest]

end

end Comp

/-- Which descriptors are embedded makes no difference to the documentation without them. -/
theorem Document.withoutTypes_mapTypes (f : Descriptor → Descriptor) (d : Document) :
    (d.mapTypes f).withoutTypes = d.withoutTypes := by
  unfold withoutTypes mapTypes
  rw [mapTypesAll_mapTypesAll]
  rfl

/-! ### Serializers -/

theorem TypeBlock.describe_modelled (type : Option Descriptor) :
    describe (type.map (Descriptor.revised .modelled)) =
      (describe type).mapTypes (Descriptor.revised .modelled) := by
  unfold describe mapTypes
  rw [renderOptional_revised]
  cases type <;> rfl

theorem TypeBlock.tagged_modelled (d : Descriptor) :
    tagged (d.revised .modelled) = (tagged d).mapTypes (Descriptor.revised .modelled) := by
  unfold tagged mapTypes
  rw [d.tag?_modelled, d.render_revised]
  cases d.tag? <;> rfl

theorem Parameter.toBlock_modelled (p : Parameter) :
    (p.revised .modelled).toBlock = p.toBlock.mapTypes (Descriptor.revised .modelled) := by
  rw [Parameter.revised_eq]
  unfold toBlock ParameterBlock.mapTypes
  dsimp only
  rw [TypeBlock.describe_modelled, Revision.map_comment_modelled]

theorem Signature.parameterList_revised (e : Revision) (s : Signature) :
    (s.revised e).parameterList = s.parameterList := by
  have shown (p : Parameter) : (p.revised e).name ++ ": " ++ renderOptional (p.revised e).type =
      p.name ++ ": " ++ renderOptional p.type := by
    rw [Parameter.revised_eq]
    dsimp only
    rw [renderOptional_revised]
  rw [Signature.revised_eq]
  unfold parameterList
  dsimp only
  cases s.parameters with
  | none => rfl
  | some ps => simp only [Option.map_some, Option.getD_some, List.map_map, Function.comp_def, shown]

theorem Signature.toBlock_modelled (s : Signature) :
    (s.revised .modelled).toBlock = s.toBlock.mapTypes (Descriptor.revised .modelled) := by
  have listed := s.parameterList_revised .modelled
  have params : Parameter.toBlock ∘ Parameter.revised .modelled =
      ParameterBlock.mapTypes (Descriptor.revised .modelled) ∘ Parameter.toBlock :=
    funext Parameter.toBlock_modelled
  unfold toBlock SignatureBlock.mapTypes
  rw [listed, Signature.revised_eq]
  simp only [TypeBlock.describe_modelled, Revision.map_comment_modelled, Option.map_map,
    List.map_comp_map, params]
  rfl

theorem Signature.toConstructorBlock?_modelled (s : Signature) :
    (s.revised .modelled).toConstructorBlock? =
      s.toConstructorBlock?.map (SignatureBlock.mapTypes (Descriptor.revised .modelled)) := by
  have listed := s.parameterList_revised .modelled
  unfold toConstructorBlock?
  rw [listed, Signature.revised_eq]
  cases s.type with
  | none => rfl
  | some type =>
    simp only [Option.map_some, TypeBlock.tagged_modelled, Revision.map_comment_modelled]
    rfl

theorem Serializer.enumMember_modelled (d : Declaration) :
    enumMember (d.revised .modelled) = enumMember d := by
  rw [Declaration.revised_eq]
  unfold enumMember
  simp only [Revision.map_comment_modelled]
  congr 1
  rcases d.type with _ | (_ | _ | _ | _ | _ | _ | _ | _ | _ | _ | _ | _ | _ | _ | _) <;>
    simp [Descriptor.revised]

theorem OneOrMany.toList_revised (e : Revision) (s : OneOrMany Signature) :
    (s.revised e).toList = s.toList.map (Signature.revised e) := by
  cases s <;> simp [OneOrMany.revised, OneOrMany.toList]

section Parts

variable (e : Revision) (d : Declaration)

theorem Declaration.signatures_revised :
    (d.revised e).signatures.getD [] = (d.signatures.getD []).map (Signature.revised e) := by
  rw [revised_eq]
  cases d.signatures <;> rfl

theorem Declaration.members_revised :
    (d.revised e).members = d.members.map (Declaration.revised e) := by
  rw [revised_eq]
  unfold members
  cases d.children <;> rfl

theorem Declaration.names_generics_revised :
    ((d.revised e).generics.map fun ps => ps.map fun p => p.name) =
      d.generics.map fun ps => ps.map fun p => p.name := by
  rw [revised_eq]
  unfold generics
  cases d.typeParameter <;> cases d.typeParameters <;> simp [TypeParameter.revised]

theorem Declaration.declaredKind_revised : (d.revised e).declaredKind = d.declaredKind := by
  rw [revised_eq]
  rfl

theorem Declaration.kindLabel_revised : (d.revised e).kindLabel = d.kindLabel := by
  have kind := d.declaredKind_revised e
  rw [revised_eq] at kind ⊢
  unfold kindLabel
  rw [kind]

end Parts

/-- What is not modelled shows in a fragment in its embedded descriptors only. -/
theorem Serializer.fragment_modelled (s : Serializer) (listed : s.Listed) (d : Declaration) :
    s.fragment (d.revised .modelled) =
      (s.fragment d).mapTypes (Descriptor.revised .modelled) := by
  have blocks : Signature.toBlock ∘ Signature.revised .modelled =
      SignatureBlock.mapTypes (Descriptor.revised .modelled) ∘ Signature.toBlock :=
    funext Signature.toBlock_modelled
  have type : TypeBlock.describe (d.revised .modelled).type =
      (TypeBlock.describe d.type).mapTypes (Descriptor.revised .modelled) := by
    rw [Declaration.revised_eq]
    exact TypeBlock.describe_modelled d.type
  cases listed with
  | constructor =>
    have blocks? : Signature.toConstructorBlock? ∘ Signature.revised .modelled = fun s =>
        s.toConstructorBlock?.map (SignatureBlock.mapTypes (Descriptor.revised .modelled)) :=
      funext Signature.toConstructorBlock?_modelled
    simp only [constructor, Fragment.mapTypes, Declaration.signatures_revised, List.filterMap_map,
      List.map_filterMap, blocks?]
  | method | function =>
    simp only [method, function, Fragment.mapTypes, Declaration.signatures_revised, List.map_map,
      blocks]
  | variableDecl =>
    simp only [variableDecl, Fragment.mapTypes, type, Option.map_some]
    rw [Declaration.revised_eq]
  | property => simp only [property, Fragment.mapTypes, type, Option.map_some]
  | enum =>
    have members : enumMember ∘ Declaration.revised .modelled = enumMember :=
      funext enumMember_modelled
    simp only [enum, Fragment.mapTypes, Declaration.members_revised, List.map_map, members]
  | typeAlias =>
    have names := d.names_generics_revised .modelled
    have name : (d.revised .modelled).name = d.name := by rw [Declaration.revised_eq]
    simp only [typeAlias, Fragment.mapTypes, type, name, names]
    rfl
  | accessor =>
    have each : (fun s => accessorBlocks s.toList) ∘ OneOrMany.revised .modelled =
        List.map (SignatureBlock.mapTypes (Descriptor.revised .modelled)) ∘
          fun s => accessorBlocks s.toList := by
      funext s
      simp only [Function.comp_apply, accessorBlocks, OneOrMany.toList_revised, List.map_map,
        blocks]
    simp only [accessor, Fragment.mapTypes]
    rw [Declaration.revised_eq]
    simp only [Option.map_map, each]

/-! ### The walk -/

theorem blocksOf_modelled (r : Registry) (ds : List Declaration)
    (each : ∀ d ∈ ds,
      (d.revised .modelled).toBlock r = (d.toBlock r).mapTypes (Descriptor.revised .modelled)) :
    blocksOf r (ds.map (Declaration.revised .modelled)) =
      mapTypesAll (Descriptor.revised .modelled) (blocksOf r ds) := by
  rw [mapTypesAll_eq_map, blocksOf_eq_map, blocksOf_eq_map, List.map_map, List.map_map]
  exact List.map_congr_left each

/-- What is not modelled shows in a block in its embedded descriptors only. -/
theorem Declaration.toBlock_modelled (r : Registry) (known : r.Known) (d : Declaration) :
    (d.revised .modelled).toBlock r = (d.toBlock r).mapTypes (Descriptor.revised .modelled) := by
  induction d using Declaration.induction_on_members with
  | step d ih =>
    have same := d.declaredKind_revised .modelled
    have name : (d.revised .modelled).name = d.name := by rw [revised_eq]
    have comment : (d.revised .modelled).comment = d.comment := by
      rw [revised_eq]
      exact Revision.map_comment_modelled d.comment
    cases kind : d.declaredKind.isContainer with
    | true =>
      rw [toBlock_container r _ (same ▸ kind), toBlock_container r d kind, Block.mapTypes_eq, name,
        comment, kindLabel_revised, members_revised, blocksOf_modelled r d.members ih]
      by_cases none : d.members = []
      · simp [none]
      · simp [none, Fragment.mapTypes]
    | false =>
      rw [toBlock_other r _ (same ▸ kind), toBlock_other r d kind, Block.mapTypes_eq, name, comment,
        kindLabel_revised, same]
      cases served : r.find? d.declaredKind with
      | none => rfl
      | some s =>
        simp only [Option.map_some, s.fragment_modelled (known.listed r _ s served) d]

/-- The documentation of what is modelled of a project is the documentation of the project, with
what is modelled of each embedded descriptor. -/
theorem Document.assemble_modelled (r : Registry) (known : r.Known) (project : Declaration)
    (generatedAt : Timestamp) :
    assemble (project.revised .modelled) r generatedAt =
      (assemble project r generatedAt).mapTypes (Descriptor.revised .modelled) := by
  have blocks := blocksOf_modelled r project.members fun d _ => d.toBlock_modelled r known
  unfold assemble mapTypes
  rw [Declaration.members_revised, blocks]

/-- Two projects that differ only in ids and in members without a field have the same documentation
but for the embedded descriptors, which differ in nothing else either. Descriptors that differ only
so have the same text. -/
theorem assemble_renumbered (r : Registry) (known : r.Known) (project project' : Declaration)
    (renumbered : project.Renumbered project') (generatedAt : Timestamp) :
    let document := Document.assemble project r generatedAt
    let document' := Document.assemble project' r generatedAt
    document.withoutTypes = document'.withoutTypes ∧
    document.mapTypes (Descriptor.revised .modelled) =
      document'.mapTypes (Descriptor.revised .modelled) ∧
    ∀ d d' : Descriptor, d.Renumbered d' → d.render = d'.render ∧ d.tag? = d'.tag? := by
  intro document document'
  -- each side is the documentation of what is modelled of its project, which is the same
  have embedded : document.mapTypes (Descriptor.revised .modelled) =
      document'.mapTypes (Descriptor.revised .modelled) := by
    rw [← Document.assemble_modelled r known, ← Document.assemble_modelled r known, renumbered]
  refine ⟨?_, embedded, ?_⟩
  · calc document.withoutTypes
        = (document.mapTypes (Descriptor.revised .modelled)).withoutTypes :=
          (document.withoutTypes_mapTypes _).symm
      _ = (document'.mapTypes (Descriptor.revised .modelled)).withoutTypes := by rw [embedded]
      _ = document'.withoutTypes := document'.withoutTypes_mapTypes _
  · intro d d' same
    constructor
    · rw [← d.render_revised .modelled, same, d'.render_revised]
    · rw [← d.tag?_modelled, same, d'.tag?_modelled]

/-- A project with a constructor and a variable, as it is reflected with these ids and sources. -/
def reflected (id : Int64) (source : Json) : Declaration :=
  let map : Descriptor := .reference "Map" (some id) none none none [("sources", source)]
  let mapped : Descriptor := .unrecognized (.obj [("type", .str "mapped"), ("parameter", source)])
  let build : Signature := { id := some id, name := "new Map", type := some map }
  { Declaration.ofKind "index" .project with
    id := some id
    children := some
      [{ Declaration.ofKind "constructor" .constructor with
         id := some id, signatures := some [build], extra := [("sources", source)] },
       { Declaration.ofKind "table" .variableDecl with
         id := some id, comment := some (.short "Known.")
         type := some (.union [map, mapped] []) }] }

/-- A project that is reflected twice. -/
theorem assemble_renumbered_reflected :
    let project := reflected 1 .null
    let project' := reflected 7 (.str "a.ts")
    Registry.default.Known ∧ project.Renumbered project' ∧ project.id ≠ project'.id ∧
      (Document.assemble project .default ⟨0, 0⟩).withoutTypes =
        (Document.assemble project' .default ⟨0, 0⟩).withoutTypes := by
  intro project project'
  have renumbered : project.Renumbered project' := by
    simp [Declaration.Renumbered, project, project', reflected, Declaration.ofKind,
      Declaration.revised_eq, Signature.revised_eq, Descriptor.revised, Revision.modelled,
      Tag.textIn?, Json.field?, Assoc.get?, Json.text?]
  exact ⟨Registry.known_default, renumbered, by decide,
    (assemble_renumbered .default Registry.known_default project project' renumbered ⟨0, 0⟩).1⟩

end TsWorkshop
