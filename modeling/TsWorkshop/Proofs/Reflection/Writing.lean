import TsWorkshop.Proofs.Reflection.Fields

/-!
How the records of a reflection are written: lists item by item, and a record as its fields, then
the members without a field.
-/

namespace TsWorkshop

open Fields

/-! ### Lists -/

theorem descriptorsToJson_eq_map (ds : List Descriptor) :
    descriptorsToJson ds = ds.map Descriptor.toJson := by
  induction ds with
  | nil => rfl
  | cons d rest ih => simp [descriptorsToJson, ih]

theorem parametersToJson_eq_map (ps : List Parameter) :
    parametersToJson ps = ps.map Parameter.toJson := by
  induction ps with
  | nil => rfl
  | cons p rest ih => simp [parametersToJson, ih]

theorem signaturesToJson_eq_map (ss : List Signature) :
    signaturesToJson ss = ss.map Signature.toJson := by
  induction ss with
  | nil => rfl
  | cons s rest ih => simp [signaturesToJson, ih]

theorem declarationsToJson_eq_map (ds : List Declaration) :
    declarationsToJson ds = ds.map Declaration.toJson := by
  induction ds with
  | nil => rfl
  | cons d rest ih => simp [declarationsToJson, ih]

/-! ### Optional members -/

@[simp] theorem optionalMember_some (name : String) (v : Json) :
    optionalMember name (some v) = [(name, v)] := rfl

@[simp] theorem optionalMember_none (name : String) : optionalMember name none = [] := rfl

/-- One signature as it is, several as an array. -/
def OneOrMany.signatureToJson : OneOrMany Signature → Json
  | .one s => s.toJson
  | .many ss => .arr (ss.map Signature.toJson)

@[simp] theorem typeMember_eq (name : String) (d : Option Descriptor) :
    typeMember name d = optionalMember name (d.map Descriptor.toJson) := by
  cases d <;> rfl

@[simp] theorem typesMember_eq (name : String) (ds : Option (List Descriptor)) :
    typesMember name ds =
      optionalMember name (ds.map fun ds => .arr (ds.map Descriptor.toJson)) := by
  cases ds with
  | none => rfl
  | some ds => simp [typesMember, optionalMember, descriptorsToJson_eq_map]

@[simp] theorem declarationMember_eq (d : Option Declaration) :
    declarationMember d = optionalMember "declaration" (d.map Declaration.toJson) := by
  cases d <;> rfl

@[simp] theorem parametersMember_eq (ps : Option (List Parameter)) :
    parametersMember ps =
      optionalMember "parameters" (ps.map fun ps => .arr (ps.map Parameter.toJson)) := by
  cases ps with
  | none => rfl
  | some ps => simp [parametersMember, optionalMember, parametersToJson_eq_map]

@[simp] theorem signaturesMember_eq (ss : Option (List Signature)) :
    signaturesMember ss =
      optionalMember "signatures" (ss.map fun ss => .arr (ss.map Signature.toJson)) := by
  cases ss with
  | none => rfl
  | some ss => simp [signaturesMember, optionalMember, signaturesToJson_eq_map]

@[simp] theorem oneOrManyMember_eq (name : String) (s : Option (OneOrMany Signature)) :
    oneOrManyMember name s = optionalMember name (s.map OneOrMany.signatureToJson) := by
  match s with
  | none => rfl
  | some (.one s) => rfl
  | some (.many ss) =>
    simp [oneOrManyMember, optionalMember, OneOrMany.signatureToJson, signaturesToJson_eq_map]

@[simp] theorem childrenMember_eq (ds : Option (List Declaration)) :
    childrenMember ds =
      optionalMember "children" (ds.map fun ds => .arr (ds.map Declaration.toJson)) := by
  cases ds with
  | none => rfl
  | some ds => simp [childrenMember, optionalMember, declarationsToJson_eq_map]

/-! ### Records -/

/-- The fields written for a comment, of which an empty list of tags is left out. -/
def Comment.fields (c : Comment) : List (String × Option Json) :=
  [("shortText", c.shortText.map .str), ("text", c.text.map .str), ("returns", c.returns.map .str),
   ("tags", if c.tags.isEmpty then none else some (.arr (c.tags.map CommentTag.toJson)))]

def TypeParameter.fields (p : TypeParameter) : List (String × Option Json) :=
  [("name", some (.str p.name))]

def Parameter.fields (p : Parameter) : List (String × Option Json) :=
  [("id", p.id.map fun n => .ofInt n.toInt), ("name", some (.str p.name)),
   ("type", p.type.map Descriptor.toJson), ("defaultValue", p.defaultValue.map .str),
   ("comment", p.comment.map Comment.toJson)]

def Signature.fields (s : Signature) : List (String × Option Json) :=
  [("id", s.id.map fun n => .ofInt n.toInt), ("name", some (.str s.name)),
   ("kind", s.kind.map RawKind.toJson), ("kindString", s.kindString.map .str),
   ("comment", s.comment.map Comment.toJson),
   ("parameters", s.parameters.map fun ps => .arr (ps.map Parameter.toJson)),
   ("type", s.type.map Descriptor.toJson)]

def Declaration.fields (d : Declaration) : List (String × Option Json) :=
  [("id", d.id.map fun n => .ofInt n.toInt), ("name", some (.str d.name)),
   ("kind", d.kind.map RawKind.toJson), ("kindString", d.kindString.map .str),
   ("comment", d.comment.map Comment.toJson),
   ("children", d.children.map fun ds => .arr (ds.map Declaration.toJson)),
   ("signatures", d.signatures.map fun ss => .arr (ss.map Signature.toJson)),
   ("getSignature", d.getSignature.map OneOrMany.signatureToJson),
   ("setSignature", d.setSignature.map OneOrMany.signatureToJson),
   ("type", d.type.map Descriptor.toJson),
   ("typeParameter", d.typeParameter.map fun ps => .arr (ps.map TypeParameter.toJson)),
   ("typeParameters", d.typeParameters.map fun ps => .arr (ps.map TypeParameter.toJson)),
   ("defaultValue", d.defaultValue.map .str)]

theorem Comment.toJson_eq (c : Comment) : c.toJson = .obj (written c.fields c.extra) := by
  obtain ⟨shortText, text, returns, tags, extra⟩ := c
  cases tags <;> simp [Comment.toJson, Comment.fields, written, optionalMember]

theorem TypeParameter.toJson_eq (p : TypeParameter) : p.toJson = .obj (written p.fields p.extra) :=
  rfl

theorem Parameter.toJson_eq (p : Parameter) : p.toJson = .obj (written p.fields p.extra) := by
  cases p
  simp [Parameter.toJson, Parameter.fields, written, idMember]

theorem Signature.toJson_eq (s : Signature) : s.toJson = .obj (written s.fields s.extra) := by
  cases s
  simp [Signature.toJson, Signature.fields, written, idMember]

theorem Declaration.toJson_eq (d : Declaration) : d.toJson = .obj (written d.fields d.extra) := by
  cases d
  simp [Declaration.toJson, Declaration.fields, written, idMember]

end TsWorkshop
