import TsWorkshop.Proofs.Reflection.Fields

/-!
How the records of a reflection are read, in terms of the three ways of reading a field. Every
record reads an object by its fields and keeps the other members; a descriptor reads the payload
under its tag, and is the value itself when that fails.
-/

namespace TsWorkshop

open Fields

/-! ### Lists -/

theorem descriptors_eq_map (items : List Json) :
    descriptors items = items.map Descriptor.ofJson := by
  induction items with
  | nil => rfl
  | cons item rest ih => simp [descriptors, ih]

theorem parameters?_eq_mapM (items : List Json) :
    parameters? items = items.mapM Parameter.ofJson? := by
  induction items with
  | nil => rfl
  | cons item rest ih => simp [parameters?, ih]

theorem signatures?_eq_mapM (items : List Json) :
    signatures? items = items.mapM Signature.ofJson? := by
  induction items with
  | nil => rfl
  | cons item rest ih => simp [signatures?, ih]

theorem declarations?_eq_mapM (items : List Json) :
    declarations? items = items.mapM Declaration.ofJson? := by
  induction items with
  | nil => rfl
  | cons item rest ih => simp [declarations?, ih]

/-! ### Values of fields -/

/-- Reading a descriptor, which is never refused. -/
def Descriptor.ofJson? (v : Json) : Option Descriptor := some (Descriptor.ofJson v)

/-- One signature, or an array of signatures. -/
def Signature.oneOrManyOfJson? : Json → Option (OneOrMany Signature)
  | .arr items => (items.mapM Signature.ofJson?).map .many
  | v => (Signature.ofJson? v).map .one

theorem Descriptor.listOfJson?_eq : Descriptor.listOfJson? = readList Descriptor.ofJson? := by
  funext v
  cases v with
  | arr items =>
    have all : ∀ items : List Json,
        items.mapM Descriptor.ofJson? = some (items.map Descriptor.ofJson) := by
      intro items
      induction items with
      | nil => rfl
      | cons item rest ih => simp [Descriptor.ofJson?, ih]
    simp [Descriptor.listOfJson?, readList, descriptors_eq_map, all]
  | null | bool | num | str | obj => rfl

theorem Parameter.listOfJson?_eq : Parameter.listOfJson? = readList Parameter.ofJson? := by
  funext v
  cases v <;> simp [Parameter.listOfJson?, readList, parameters?_eq_mapM]

theorem Signature.listOfJson?_eq : Signature.listOfJson? = readList Signature.ofJson? := by
  funext v
  cases v <;> simp [Signature.listOfJson?, readList, signatures?_eq_mapM]

theorem Declaration.listOfJson?_eq : Declaration.listOfJson? = readList Declaration.ofJson? := by
  funext v
  cases v <;> simp [Declaration.listOfJson?, readList, declarations?_eq_mapM]

theorem TypeParameter.listOfJson?_eq :
    TypeParameter.listOfJson? = readList TypeParameter.ofJson? := by
  funext v
  cases v <;> rfl

/-- A search that stops at the first member with a name reads that member. -/
theorem eq_readRequired {α : Type} (name : String) (read : Json → Option α)
    (search : Assoc Json → Option α) (atEnd : search [] = none)
    (atMember : ∀ key v rest,
      search ((key, v) :: rest) = if key = name then read v else search rest)
    (members : Assoc Json) : search members = readRequired name read members := by
  induction members with
  | nil => exact atEnd
  | cons member rest ih =>
    obtain ⟨key, v⟩ := member
    rw [atMember, ih, readRequired, readRequired, Assoc.get?_cons]
    by_cases h : key = name <;> simp [h]

theorem descriptorAt_eq (name : String) (members : Assoc Json) :
    descriptorAt name members = readRequired name Descriptor.ofJson? members :=
  eq_readRequired name _ _ rfl (fun _ _ _ => rfl) members

theorem descriptorsAt_eq (name : String) (members : Assoc Json) :
    descriptorsAt name members = readRequired name (readList Descriptor.ofJson?) members :=
  eq_readRequired name _ _ rfl (fun _ _ _ => Descriptor.listOfJson?_eq ▸ rfl) members

theorem declarationAt_eq (name : String) (members : Assoc Json) :
    declarationAt name members = readRequired name Declaration.ofJson? members :=
  eq_readRequired name _ _ rfl (fun _ _ _ => rfl) members

theorem declarationsAt_eq (name : String) (members : Assoc Json) :
    declarationsAt name members = readRequired name (readList Declaration.ofJson?) members :=
  eq_readRequired name _ _ rfl (fun _ _ _ => Declaration.listOfJson?_eq ▸ rfl) members

theorem signaturesAt_eq (name : String) (members : Assoc Json) :
    signaturesAt name members = readRequired name (readList Signature.ofJson?) members :=
  eq_readRequired name _ _ rfl (fun _ _ _ => Signature.listOfJson?_eq ▸ rfl) members

theorem parametersAt_eq (name : String) (members : Assoc Json) :
    parametersAt name members = readRequired name (readList Parameter.ofJson?) members :=
  eq_readRequired name _ _ rfl (fun _ _ _ => Parameter.listOfJson?_eq ▸ rfl) members

theorem oneOrManyAt_eq (name : String) (members : Assoc Json) :
    oneOrManyAt name members = readRequired name Signature.oneOrManyOfJson? members := by
  refine eq_readRequired name _ _ rfl (fun key v rest => ?_) members
  cases v with
  | arr items => rw [oneOrManyAt, signatures?_eq_mapM, Signature.oneOrManyOfJson?]
  | null | bool | num | str | obj => rfl

/-! ### Records -/

theorem CommentTag.ofJson?_obj (members : Assoc Json) :
    CommentTag.ofJson? (.obj members) =
      if distinct ["tag", "text", "param"] members then do
        let tag ← readRequired "tag" Json.text? members
        let text ← readDefaulted "text" "" Json.text? members
        let param ← readNullable "param" Json.text? members
        return { tag, text, param }
      else none := rfl

theorem Comment.ofJson?_obj (members : Assoc Json) :
    Comment.ofJson? (.obj members) =
      if distinct Comment.fieldNames members then do
        let shortText ← readNullable "shortText" Json.text? members
        let text ← readNullable "text" Json.text? members
        let returns ← readNullable "returns" Json.text? members
        let tags ← readDefaulted "tags" [] (readList CommentTag.ofJson?) members
        return { shortText, text, returns, tags, extra := others Comment.fieldNames members }
      else none := by
  have listed : Comment.tags? = readList CommentTag.ofJson? := by
    funext v
    cases v <;> rfl
  rw [Comment.ofJson?, listed]
  rfl

theorem TypeParameter.ofJson?_obj (members : Assoc Json) :
    TypeParameter.ofJson? (.obj members) =
      if distinct ["name"] members then do
        let name ← readRequired "name" Json.text? members
        return { name, extra := others ["name"] members }
      else none := rfl

/-- The payload of a descriptor under a tag. -/
def Descriptor.payload? (tag : Tag) (members : Assoc Json) : Option Descriptor :=
  let extra := othersOf tag members
  match tag with
  | .array => do return .array (← readRequired "elementType" ofJson? members) extra
  | .conditional => do
    return .conditional (← readRequired "checkType" ofJson? members)
      (← readRequired "extendsType" ofJson? members) (← readRequired "trueType" ofJson? members)
      (← readRequired "falseType" ofJson? members) extra
  | .indexedAccess => do
    return .indexedAccess (← readRequired "objectType" ofJson? members)
      (← readRequired "indexType" ofJson? members) extra
  | .inferred => do return .inferred (← readDefaulted "name" "" Json.text? members) extra
  | .intersection => do
    return .intersection (← readDefaulted "types" [] (readList ofJson?) members) extra
  | .intrinsic => do return .intrinsic (← readDefaulted "name" "" Json.text? members) extra
  | .predicate => do
    return .predicate (← readRequired "name" Json.text? members)
      (← readDefaulted "asserts" false Json.flag? members)
      (← readNullable "targetType" ofJson? members) extra
  | .reference => do
    return .reference (← readRequired "name" Json.text? members)
      (← readNullable "id" int64? members)
      (← readNullable "typeArguments" (readList ofJson?) members)
      (← readNullable "qualifiedName" Json.text? members)
      (← readNullable "package" Json.text? members) extra
  | .reflection => do
    return .reflection (← readNullable "declaration" Declaration.ofJson? members) extra
  | .literal => do return .literal (← readDefaulted "value" .null Literal.ofJson? members) extra
  | .tuple => do return .tuple (← readNullable "elements" (readList ofJson?) members) extra
  | .typeOperator => do
    return .typeOperator (← readRequired "operator" Json.text? members)
      (← readRequired "target" ofJson? members) extra
  | .union => do return .union (← readDefaulted "types" [] (readList ofJson?) members) extra
  | .unknown => do return .unknown (← readDefaulted "name" "" Json.text? members) extra

theorem Descriptor.ofJson_obj (members : Assoc Json) :
    Descriptor.ofJson (.obj members) =
      ((Tag.classify (.obj members)).bind fun tag =>
        if distinct (Descriptor.fieldNames tag) members then payload? tag members
        else none).getD (.unrecognized (.obj members)) := by
  rw [Descriptor.ofJson]
  congr 1
  cases Tag.classify (.obj members) with
  | none => rfl
  | some tag =>
    by_cases once : distinct (Descriptor.fieldNames tag) members
    · simp only [Option.bind_eq_bind, Option.bind_some, once, Bool.not_true, Bool.false_eq_true,
        if_false, if_true, descriptorAt_eq, descriptorsAt_eq, declarationAt_eq]
      cases tag <;> rfl
    · simp [once]

theorem Parameter.ofJson?_obj (members : Assoc Json) :
    Parameter.ofJson? (.obj members) =
      if distinct Parameter.fieldNames members then do
        let id ← readNullable "id" int64? members
        let name ← readRequired "name" Json.text? members
        let type ← readNullable "type" Descriptor.ofJson? members
        let defaultValue ← readNullable "defaultValue" Json.text? members
        let comment ← readNullable "comment" Comment.ofJson? members
        return { id, name, type, defaultValue, comment,
                 extra := others Parameter.fieldNames members }
      else none := by
  rw [Parameter.ofJson?]
  simp only [descriptorAt_eq]
  rfl

theorem Signature.ofJson?_obj (members : Assoc Json) :
    Signature.ofJson? (.obj members) =
      if distinct Signature.fieldNames members then do
        let id ← readNullable "id" int64? members
        let name ← readRequired "name" Json.text? members
        let kind ← readNullable "kind" RawKind.ofJson? members
        let kindString ← readNullable "kindString" Json.text? members
        let comment ← readNullable "comment" Comment.ofJson? members
        let parameters ← readNullable "parameters" (readList Parameter.ofJson?) members
        let type ← readNullable "type" Descriptor.ofJson? members
        return { id, name, kind, kindString, comment, parameters, type,
                 extra := others Signature.fieldNames members }
      else none := by
  rw [Signature.ofJson?]
  simp only [descriptorAt_eq, parametersAt_eq]
  rfl

theorem Declaration.ofJson?_obj (members : Assoc Json) :
    Declaration.ofJson? (.obj members) =
      if distinct Declaration.fieldNames members then do
        let id ← readNullable "id" int64? members
        let name ← readRequired "name" Json.text? members
        let kind ← readNullable "kind" RawKind.ofJson? members
        let kindString ← readNullable "kindString" Json.text? members
        let comment ← readNullable "comment" Comment.ofJson? members
        let children ← readNullable "children" (readList Declaration.ofJson?) members
        let signatures ← readNullable "signatures" (readList Signature.ofJson?) members
        let getSignature ← readNullable "getSignature" Signature.oneOrManyOfJson? members
        let setSignature ← readNullable "setSignature" Signature.oneOrManyOfJson? members
        let type ← readNullable "type" Descriptor.ofJson? members
        let typeParameter ← readNullable "typeParameter" (readList TypeParameter.ofJson?) members
        let typeParameters ← readNullable "typeParameters" (readList TypeParameter.ofJson?) members
        let defaultValue ← readNullable "defaultValue" Json.text? members
        return { id, name, kind, kindString, comment, children, signatures, getSignature,
                 setSignature, type, typeParameter, typeParameters, defaultValue,
                 extra := others Declaration.fieldNames members }
      else none := by
  rw [Declaration.ofJson?]
  simp only [descriptorAt_eq, declarationsAt_eq, signaturesAt_eq, oneOrManyAt_eq,
    TypeParameter.listOfJson?_eq]
  rfl

/-! ### What a record is read from -/

/-- The fields of a parameter are read from these members. -/
structure Parameter.ReadFrom (members : Assoc Json) (p : Parameter) : Prop where
  once : distinct Parameter.fieldNames members = true
  id : readNullable "id" int64? members = some p.id
  name : readRequired "name" Json.text? members = some p.name
  type : readNullable "type" Descriptor.ofJson? members = some p.type
  defaultValue : readNullable "defaultValue" Json.text? members = some p.defaultValue
  comment : readNullable "comment" Comment.ofJson? members = some p.comment
  extra : p.extra = others Parameter.fieldNames members

/-- The fields of a signature are read from these members. -/
structure Signature.ReadFrom (members : Assoc Json) (s : Signature) : Prop where
  once : distinct Signature.fieldNames members = true
  id : readNullable "id" int64? members = some s.id
  name : readRequired "name" Json.text? members = some s.name
  kind : readNullable "kind" RawKind.ofJson? members = some s.kind
  kindString : readNullable "kindString" Json.text? members = some s.kindString
  comment : readNullable "comment" Comment.ofJson? members = some s.comment
  parameters : readNullable "parameters" (readList Parameter.ofJson?) members = some s.parameters
  type : readNullable "type" Descriptor.ofJson? members = some s.type
  extra : s.extra = others Signature.fieldNames members

/-- The fields of a declaration are read from these members. -/
structure Declaration.ReadFrom (members : Assoc Json) (d : Declaration) : Prop where
  once : distinct Declaration.fieldNames members = true
  id : readNullable "id" int64? members = some d.id
  name : readRequired "name" Json.text? members = some d.name
  kind : readNullable "kind" RawKind.ofJson? members = some d.kind
  kindString : readNullable "kindString" Json.text? members = some d.kindString
  comment : readNullable "comment" Comment.ofJson? members = some d.comment
  children : readNullable "children" (readList Declaration.ofJson?) members = some d.children
  signatures : readNullable "signatures" (readList Signature.ofJson?) members = some d.signatures
  getSignature :
    readNullable "getSignature" Signature.oneOrManyOfJson? members = some d.getSignature
  setSignature :
    readNullable "setSignature" Signature.oneOrManyOfJson? members = some d.setSignature
  type : readNullable "type" Descriptor.ofJson? members = some d.type
  typeParameter :
    readNullable "typeParameter" (readList TypeParameter.ofJson?) members = some d.typeParameter
  typeParameters :
    readNullable "typeParameters" (readList TypeParameter.ofJson?) members = some d.typeParameters
  defaultValue : readNullable "defaultValue" Json.text? members = some d.defaultValue
  extra : d.extra = others Declaration.fieldNames members

theorem Parameter.ofJson?_obj_iff (members : Assoc Json) (p : Parameter) :
    Parameter.ofJson? (.obj members) = some p ↔ p.ReadFrom members := by
  rw [Parameter.ofJson?_obj]
  constructor
  · intro h
    obtain ⟨once, h⟩ := Option.ite_none_right_eq_some.mp h
    obtain ⟨id, hid, h⟩ := Option.bind_eq_some_iff.mp h
    obtain ⟨name, hname, h⟩ := Option.bind_eq_some_iff.mp h
    obtain ⟨type, htype, h⟩ := Option.bind_eq_some_iff.mp h
    obtain ⟨defaultValue, hvalue, h⟩ := Option.bind_eq_some_iff.mp h
    obtain ⟨comment, hcomment, h⟩ := Option.bind_eq_some_iff.mp h
    obtain rfl := Option.some.inj h
    exact ⟨once, hid, hname, htype, hvalue, hcomment, rfl⟩
  · intro h
    obtain ⟨id, name, type, defaultValue, comment, extra⟩ := p
    obtain ⟨once, hid, hname, htype, hvalue, hcomment, rfl⟩ := h
    simp [once, hid, hname, htype, hvalue, hcomment]

theorem Signature.ofJson?_obj_iff (members : Assoc Json) (s : Signature) :
    Signature.ofJson? (.obj members) = some s ↔ s.ReadFrom members := by
  rw [Signature.ofJson?_obj]
  constructor
  · intro h
    obtain ⟨once, h⟩ := Option.ite_none_right_eq_some.mp h
    obtain ⟨id, hid, h⟩ := Option.bind_eq_some_iff.mp h
    obtain ⟨name, hname, h⟩ := Option.bind_eq_some_iff.mp h
    obtain ⟨kind, hkind, h⟩ := Option.bind_eq_some_iff.mp h
    obtain ⟨label, hlabel, h⟩ := Option.bind_eq_some_iff.mp h
    obtain ⟨comment, hcomment, h⟩ := Option.bind_eq_some_iff.mp h
    obtain ⟨parameters, hparameters, h⟩ := Option.bind_eq_some_iff.mp h
    obtain ⟨type, htype, h⟩ := Option.bind_eq_some_iff.mp h
    obtain rfl := Option.some.inj h
    exact ⟨once, hid, hname, hkind, hlabel, hcomment, hparameters, htype, rfl⟩
  · intro h
    obtain ⟨id, name, kind, label, comment, parameters, type, extra⟩ := s
    obtain ⟨once, hid, hname, hkind, hlabel, hcomment, hparameters, htype, rfl⟩ := h
    simp [once, hid, hname, hkind, hlabel, hcomment, hparameters, htype]

theorem Declaration.ofJson?_obj_iff (members : Assoc Json) (d : Declaration) :
    Declaration.ofJson? (.obj members) = some d ↔ d.ReadFrom members := by
  rw [Declaration.ofJson?_obj]
  constructor
  · intro h
    obtain ⟨once, h⟩ := Option.ite_none_right_eq_some.mp h
    obtain ⟨id, hid, h⟩ := Option.bind_eq_some_iff.mp h
    obtain ⟨name, hname, h⟩ := Option.bind_eq_some_iff.mp h
    obtain ⟨kind, hkind, h⟩ := Option.bind_eq_some_iff.mp h
    obtain ⟨label, hlabel, h⟩ := Option.bind_eq_some_iff.mp h
    obtain ⟨comment, hcomment, h⟩ := Option.bind_eq_some_iff.mp h
    obtain ⟨children, hchildren, h⟩ := Option.bind_eq_some_iff.mp h
    obtain ⟨signatures, hsignatures, h⟩ := Option.bind_eq_some_iff.mp h
    obtain ⟨get, hget, h⟩ := Option.bind_eq_some_iff.mp h
    obtain ⟨set, hset, h⟩ := Option.bind_eq_some_iff.mp h
    obtain ⟨type, htype, h⟩ := Option.bind_eq_some_iff.mp h
    obtain ⟨generics, hgenerics, h⟩ := Option.bind_eq_some_iff.mp h
    obtain ⟨generics', hgenerics', h⟩ := Option.bind_eq_some_iff.mp h
    obtain ⟨value, hvalue, h⟩ := Option.bind_eq_some_iff.mp h
    obtain rfl := Option.some.inj h
    exact ⟨once, hid, hname, hkind, hlabel, hcomment, hchildren, hsignatures, hget, hset, htype,
      hgenerics, hgenerics', hvalue, rfl⟩
  · intro h
    obtain ⟨id, name, kind, label, comment, children, signatures, get, set, type, generics,
      generics', value, extra⟩ := d
    obtain ⟨once, hid, hname, hkind, hlabel, hcomment, hchildren, hsignatures, hget, hset, htype,
      hgenerics, hgenerics', hvalue, rfl⟩ := h
    simp [once, hid, hname, hkind, hlabel, hcomment, hchildren, hsignatures, hget, hset, htype,
      hgenerics, hgenerics', hvalue]

end TsWorkshop
