import TsWorkshop.Reflection.Encode
import TsWorkshop.Reflection.Render

/-!
Blocks of the documentation file. A block has the name, kind label and comment of a declaration, and
a fragment with the keys that belong to its kind. Absent keys are left out.
-/

namespace TsWorkshop

/-- A type as a block shows it: its whole descriptor, or only its tag. -/
inductive TypeSummary where
  | tag (text : String)
  | descriptor (d : Descriptor)

/-- A type with its text. -/
structure TypeBlock where
  summary : Option TypeSummary
  value : String

structure ParameterBlock where
  name : String
  type : TypeBlock
  defaultValue : Option String
  comment : Option Comment

structure SignatureBlock where
  type : TypeBlock
  asString : String
  params : Option (List ParameterBlock)
  returnType : Option TypeBlock
  comment : Option Comment

structure EnumMemberBlock where
  name : String
  value : Option String
  comment : Option Comment

mutual

/-- The keys that belong to a kind of declaration. -/
inductive Fragment where
  | container (children : List Block)
  | signatures (signatures : List SignatureBlock)
  | typed (type : Option TypeBlock) (defaultValue : Option String)
  | enum (members : List EnumMemberBlock)
  | typeAlias (typeParams : Option (List String)) (type : TypeBlock) (asString : String)
  | accessor (getters setters : Option (List SignatureBlock))

/-- One documented declaration. -/
structure Block where
  name : String
  kind : String
  comment : Option Comment
  fragment : Option Fragment

end

namespace TypeBlock

/-- A type with its whole descriptor. -/
def describe (type : Option Descriptor) : TypeBlock :=
  { summary := type.map .descriptor, value := renderOptional type }

/-- A type with its tag only. -/
def tagged (type : Descriptor) : TypeBlock :=
  { summary := type.tag?.map .tag, value := type.render }

def summaryToJson : TypeSummary → Json
  | .tag text => .str text
  | .descriptor d => d.toJson

def toJson (b : TypeBlock) : Json :=
  .obj (optionalMember "type" (b.summary.map summaryToJson) ++ [("value", .str b.value)])

end TypeBlock

def ParameterBlock.toJson (b : ParameterBlock) : Json :=
  .obj (("name", .str b.name) :: ("type", b.type.toJson) ::
    (optionalMember "default_value" (b.defaultValue.map .str) ++
      optionalMember "comment" (b.comment.map Comment.toJson)))

def SignatureBlock.toJson (b : SignatureBlock) : Json :=
  .obj (("type", b.type.toJson) :: ("as_string", .str b.asString) ::
    (optionalMember "params" (b.params.map fun ps => .arr (ps.map ParameterBlock.toJson)) ++
      optionalMember "return_type" (b.returnType.map TypeBlock.toJson) ++
      optionalMember "comment" (b.comment.map Comment.toJson)))

def EnumMemberBlock.toJson (b : EnumMemberBlock) : Json :=
  .obj (("name", .str b.name) :: (optionalMember "value" (b.value.map .str) ++
    optionalMember "comment" (b.comment.map Comment.toJson)))

/-- Signatures as an array. -/
def signatureBlocksToJson (blocks : List SignatureBlock) : Json :=
  .arr (blocks.map SignatureBlock.toJson)

mutual

/-- The members that a fragment adds to its block. -/
def Fragment.members : Fragment → Assoc Json
  | .container children => [("children", .arr (blocksToJson children))]
  | .signatures signatures => [("signatures", signatureBlocksToJson signatures)]
  | .typed type defaultValue =>
    optionalMember "type" (type.map TypeBlock.toJson) ++
      optionalMember "default_value" (defaultValue.map .str)
  | .enum members => [("members", .arr (members.map EnumMemberBlock.toJson))]
  | .typeAlias typeParams type asString =>
    optionalMember "type_params"
        (typeParams.map fun names => .arr (names.map fun name => .obj [("name", .str name)])) ++
      [("type", type.toJson), ("as_string", .str asString)]
  | .accessor getters setters =>
    optionalMember "getters" (getters.map signatureBlocksToJson) ++
      optionalMember "setters" (setters.map signatureBlocksToJson)

def Block.toJson : Block → Json
  | { name, kind, comment, fragment } =>
    .obj (("name", .str name) :: ("kind", .str kind) ::
      (optionalMember "comment" (comment.map Comment.toJson) ++
        (match fragment with
        | some fragment => fragment.members
        | none => [])))

def blocksToJson : List Block → List Json
  | [] => []
  | b :: rest => b.toJson :: blocksToJson rest

end

namespace Fragment

def toJson (f : Fragment) : Json := .obj f.members

end Fragment

/-- The blocks of a container's members. -/
def Block.children (b : Block) : List Block :=
  match b.fragment with
  | some (.container children) => children
  | _ => []

end TsWorkshop
