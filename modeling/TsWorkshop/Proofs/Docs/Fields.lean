import TsWorkshop.Docs.Block
import TsWorkshop.Proofs.Reflection.Writing

/-!
How the parts of a block are written: as their fields in order, absent ones left out. A block has
its heading and then the fields of its fragment, which have other names.
-/

namespace TsWorkshop

open Fields

def TypeBlock.fields (b : TypeBlock) : List (String × Option Json) :=
  [("type", b.summary.map summaryToJson), ("value", some (.str b.value))]

def ParameterBlock.fields (b : ParameterBlock) : List (String × Option Json) :=
  [("name", some (.str b.name)), ("type", some b.type.toJson),
   ("default_value", b.defaultValue.map .str), ("comment", b.comment.map Comment.toJson)]

def SignatureBlock.fields (b : SignatureBlock) : List (String × Option Json) :=
  [("type", some b.type.toJson), ("as_string", some (.str b.asString)),
   ("params", b.params.map fun ps => .arr (ps.map ParameterBlock.toJson)),
   ("return_type", b.returnType.map TypeBlock.toJson), ("comment", b.comment.map Comment.toJson)]

def EnumMemberBlock.fields (b : EnumMemberBlock) : List (String × Option Json) :=
  [("name", some (.str b.name)), ("value", b.value.map .str),
   ("comment", b.comment.map Comment.toJson)]

/-- The generic parameters of a type alias, which are written by their names. -/
def typeParamsToJson (names : List String) : Json :=
  .arr (names.map fun name => .obj [("name", .str name)])

def Fragment.fields : Fragment → List (String × Option Json)
  | .container children => [("children", some (.arr (blocksToJson children)))]
  | .signatures blocks => [("signatures", some (signatureBlocksToJson blocks))]
  | .typed type defaultValue =>
    [("type", type.map TypeBlock.toJson), ("default_value", defaultValue.map .str)]
  | .enum blocks => [("members", some (.arr (blocks.map EnumMemberBlock.toJson)))]
  | .typeAlias typeParams type asString =>
    [("type_params", typeParams.map typeParamsToJson), ("type", some type.toJson),
     ("as_string", some (.str asString))]
  | .accessor getters setters =>
    [("getters", getters.map signatureBlocksToJson), ("setters", setters.map signatureBlocksToJson)]

/-- The fields that every block has, whatever its kind. -/
def Block.heading (b : Block) : List (String × Option Json) :=
  [("name", some (.str b.name)), ("kind", some (.str b.kind)),
   ("comment", b.comment.map Comment.toJson)]

def Block.fields (b : Block) : List (String × Option Json) :=
  b.heading ++ (b.fragment.map Fragment.fields).getD []

theorem TypeBlock.toJson_eq (b : TypeBlock) : b.toJson = .obj (written b.fields []) := by
  simp [TypeBlock.toJson, TypeBlock.fields, written]

theorem ParameterBlock.toJson_eq (b : ParameterBlock) : b.toJson = .obj (written b.fields []) := by
  simp [ParameterBlock.toJson, ParameterBlock.fields, written]

theorem SignatureBlock.toJson_eq (b : SignatureBlock) : b.toJson = .obj (written b.fields []) := by
  simp [SignatureBlock.toJson, SignatureBlock.fields, written]

theorem EnumMemberBlock.toJson_eq (b : EnumMemberBlock) :
    b.toJson = .obj (written b.fields []) := by
  simp [EnumMemberBlock.toJson, EnumMemberBlock.fields, written]

theorem Fragment.members_eq (f : Fragment) : f.members = written f.fields [] := by
  cases f with
  | container | signatures | enum => rfl
  | typed type defaultValue => simp [Fragment.members, Fragment.fields, written]
  | typeAlias typeParams type asString =>
    cases typeParams <;> simp [Fragment.members, Fragment.fields, written, typeParamsToJson]
  | accessor getters setters => simp [Fragment.members, Fragment.fields, written]

theorem Block.toJson_eq (b : Block) : b.toJson = .obj (written b.fields []) := by
  obtain ⟨name, kind, comment, fragment⟩ := b
  cases fragment with
  | none => simp [Block.toJson, Block.fields, Block.heading, written]
  | some f =>
    simp [Block.toJson, Block.fields, Block.heading, Fragment.members_eq, written]

theorem blocksToJson_eq_map (blocks : List Block) :
    blocksToJson blocks = blocks.map Block.toJson := by
  induction blocks with
  | nil => rfl
  | cons b rest ih => simp [blocksToJson, ih]

/-! ### Finding a field -/

/-- A field of what is written is found under its name, if it is there. -/
theorem field?_fields (fields : List (String × Option Json)) (names : (fields.map Prod.fst).Nodup)
    (name : String) (value : Option Json) (h : (name, value) ∈ fields) :
    (Json.obj (written fields [])).field? name = value :=
  get?_written fields [] names name value h rfl

/-- What is found is a field. -/
theorem mem_of_get?_fields (fields : List (String × Option Json)) (name : String) (v : Json)
    (h : Assoc.get? name (written fields []) = some v) : (name, some v) ∈ fields := by
  have listed := Assoc.mem_of_get? name _ v h
  rw [written, List.append_nil] at listed
  obtain ⟨⟨key, value⟩, inside, here⟩ := List.mem_flatMap.mp listed
  cases value with
  | none => cases here
  | some w =>
    obtain ⟨rfl, rfl⟩ := Prod.mk.inj (List.mem_singleton.mp here)
    exact inside

theorem TypeBlock.field?_of_mem (b : TypeBlock) (name : String) (value : Option Json)
    (h : (name, value) ∈ b.fields) : b.toJson.field? name = value := by
  rw [toJson_eq]
  exact field?_fields b.fields (by simp [fields]) name value h

theorem ParameterBlock.field?_of_mem (b : ParameterBlock) (name : String) (value : Option Json)
    (h : (name, value) ∈ b.fields) : b.toJson.field? name = value := by
  rw [toJson_eq]
  exact field?_fields b.fields (by simp [fields]) name value h

theorem SignatureBlock.field?_of_mem (b : SignatureBlock) (name : String) (value : Option Json)
    (h : (name, value) ∈ b.fields) : b.toJson.field? name = value := by
  rw [toJson_eq]
  exact field?_fields b.fields (by simp [fields]) name value h

/-- No fragment has a field of the heading, and none has a field twice. -/
theorem Block.nodup_fields (b : Block) : (b.fields.map Prod.fst).Nodup := by
  obtain ⟨name, kind, comment, fragment⟩ := b
  cases fragment with
  | none => simp [Block.fields, Block.heading]
  | some f => cases f <;> simp [Block.fields, Block.heading, Fragment.fields]

theorem Block.field?_of_mem (b : Block) (name : String) (value : Option Json)
    (h : (name, value) ∈ b.fields) : b.toJson.field? name = value := by
  rw [toJson_eq]
  exact field?_fields b.fields b.nodup_fields name value h

/-- What a block has beside its heading is in its fragment. -/
theorem Block.field?_fragment (b : Block) (name : String)
    (other : name ∉ b.heading.map Prod.fst) :
    b.toJson.field? name = b.fragment.bind fun f => Assoc.get? name f.members := by
  have split : written b.fields [] =
      written b.heading (written ((b.fragment.map Fragment.fields).getD []) []) := by
    simp [Block.fields, written]
  rw [toJson_eq, split]
  refine (get?_written_of_not_mem b.heading _ name other).trans ?_
  cases b.fragment with
  | none => rfl
  | some f => simp [f.members_eq]

end TsWorkshop
