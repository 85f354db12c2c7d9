import TsWorkshop.Reflection.Basic

/-!
Reflection records as JSON values: fields in order, absent ones left out, then the members that have
no field. A descriptor is written with its tag first.
-/

namespace TsWorkshop

/-- A member for a field that is there. -/
def optionalMember (name : String) (value : Option Json) : Assoc Json :=
  match value with
  | some value => [(name, value)]
  | none => []

namespace CommentTag

def toJson (t : CommentTag) : Json :=
  .obj (("tag", .str t.tag) :: ("text", .str t.text) :: optionalMember "param" (t.param.map .str))

end CommentTag

namespace Comment

def toJson (c : Comment) : Json :=
  .obj (optionalMember "shortText" (c.shortText.map .str) ++
    optionalMember "text" (c.text.map .str) ++
    optionalMember "returns" (c.returns.map .str) ++
    (if c.tags.isEmpty then [] else [("tags", .arr (c.tags.map CommentTag.toJson))]) ++ c.extra)

end Comment

namespace TypeParameter

def toJson (p : TypeParameter) : Json := .obj (("name", .str p.name) :: p.extra)

end TypeParameter

namespace Literal

def toJson : Literal → Json
  | null => .null
  | bool b => .bool b
  | number n => .num n
  | text s => .str s
  | bigint digits negative => .obj [("value", .str digits), ("negative", .bool negative)]

end Literal

/-- The member for an identifier. -/
def idMember (id : Option Int64) : Assoc Json :=
  optionalMember "id" (id.map fun n => .ofInt n.toInt)

mutual

def Descriptor.toJson : Descriptor → Json
  | .array element extra =>
    .obj (("type", .str "array") :: ("elementType", element.toJson) :: extra)
  | .conditional check base whenTrue whenFalse extra =>
    .obj (("type", .str "conditional") :: ("checkType", check.toJson) ::
      ("extendsType", base.toJson) :: ("trueType", whenTrue.toJson) ::
      ("falseType", whenFalse.toJson) :: extra)
  | .indexedAccess object index extra =>
    .obj (("type", .str "indexedAccess") :: ("objectType", object.toJson) ::
      ("indexType", index.toJson) :: extra)
  | .inferred name extra => .obj (("type", .str "inferred") :: ("name", .str name) :: extra)
  | .intersection types extra =>
    .obj (("type", .str "intersection") :: ("types", .arr (descriptorsToJson types)) :: extra)
  | .intrinsic name extra => .obj (("type", .str "intrinsic") :: ("name", .str name) :: extra)
  | .predicate name asserts target extra =>
    .obj (("type", .str "predicate") :: ("name", .str name) :: ("asserts", .bool asserts) ::
      (typeMember "targetType" target ++ extra))
  | .reference name id arguments qualifiedName package extra =>
    .obj (("type", .str "reference") :: ("name", .str name) ::
      (idMember id ++ typesMember "typeArguments" arguments ++
        optionalMember "qualifiedName" (qualifiedName.map .str) ++
        optionalMember "package" (package.map .str) ++ extra))
  | .reflection declaration extra =>
    .obj (("type", .str "reflection") :: (declarationMember declaration ++ extra))
  | .literal value extra => .obj (("type", .str "literal") :: ("value", value.toJson) :: extra)
  | .tuple elements extra =>
    .obj (("type", .str "tuple") :: (typesMember "elements" elements ++ extra))
  | .typeOperator operator target extra =>
    .obj (("type", .str "typeOperator") :: ("operator", .str operator) ::
      ("target", target.toJson) :: extra)
  | .union types extra =>
    .obj (("type", .str "union") :: ("types", .arr (descriptorsToJson types)) :: extra)
  | .unknown name extra => .obj (("type", .str "unknown") :: ("name", .str name) :: extra)
  | .unrecognized raw => raw

def descriptorsToJson : List Descriptor → List Json
  | [] => []
  | d :: rest => d.toJson :: descriptorsToJson rest

/-- The member for a type that may be absent. -/
def typeMember (name : String) : Option Descriptor → Assoc Json
  | none => []
  | some d => [(name, d.toJson)]

/-- The member for a list of types that may be absent. -/
def typesMember (name : String) : Option (List Descriptor) → Assoc Json
  | none => []
  | some ds => [(name, .arr (descriptorsToJson ds))]

/-- The member for a declaration that may be absent. -/
def declarationMember : Option Declaration → Assoc Json
  | none => []
  | some d => [("declaration", d.toJson)]

def Parameter.toJson : Parameter → Json
  | { id, name, type, defaultValue, comment, extra } =>
    .obj (idMember id ++ ("name", .str name) :: (typeMember "type" type ++
      optionalMember "defaultValue" (defaultValue.map .str) ++
      optionalMember "comment" (comment.map Comment.toJson) ++ extra))

def parametersToJson : List Parameter → List Json
  | [] => []
  | p :: rest => p.toJson :: parametersToJson rest

/-- The member for the parameters of a signature. -/
def parametersMember : Option (List Parameter) → Assoc Json
  | none => []
  | some ps => [("parameters", .arr (parametersToJson ps))]

def Signature.toJson : Signature → Json
  | { id, name, kind, kindString, comment, parameters, type, extra } =>
    .obj (idMember id ++ ("name", .str name) ::
      (optionalMember "kind" (kind.map RawKind.toJson) ++
        optionalMember "kindString" (kindString.map .str) ++
        optionalMember "comment" (comment.map Comment.toJson) ++
        parametersMember parameters ++ typeMember "type" type ++ extra))

def signaturesToJson : List Signature → List Json
  | [] => []
  | s :: rest => s.toJson :: signaturesToJson rest

/-- The member for the signatures of a declaration. -/
def signaturesMember : Option (List Signature) → Assoc Json
  | none => []
  | some ss => [("signatures", .arr (signaturesToJson ss))]

/-- The member for the signatures of an accessor, in the spelling in which they were read. -/
def oneOrManyMember (name : String) : Option (OneOrMany Signature) → Assoc Json
  | none => []
  | some (.one s) => [(name, s.toJson)]
  | some (.many ss) => [(name, .arr (signaturesToJson ss))]

def Declaration.toJson : Declaration → Json
  | { id, name, kind, kindString, comment, children, signatures, getSignature, setSignature, type,
      typeParameter, typeParameters, defaultValue, extra } =>
    .obj (idMember id ++ ("name", .str name) ::
      (optionalMember "kind" (kind.map RawKind.toJson) ++
        optionalMember "kindString" (kindString.map .str) ++
        optionalMember "comment" (comment.map Comment.toJson) ++
        childrenMember children ++ signaturesMember signatures ++
        oneOrManyMember "getSignature" getSignature ++
        oneOrManyMember "setSignature" setSignature ++ typeMember "type" type ++
        optionalMember "typeParameter"
          (typeParameter.map fun ps => .arr (ps.map TypeParameter.toJson)) ++
        optionalMember "typeParameters"
          (typeParameters.map fun ps => .arr (ps.map TypeParameter.toJson)) ++
        optionalMember "defaultValue" (defaultValue.map .str) ++ extra))

def declarationsToJson : List Declaration → List Json
  | [] => []
  | d :: rest => d.toJson :: declarationsToJson rest

/-- The member for the children of a declaration. -/
def childrenMember : Option (List Declaration) → Assoc Json
  | none => []
  | some ds => [("children", .arr (declarationsToJson ds))]

end

end TsWorkshop
