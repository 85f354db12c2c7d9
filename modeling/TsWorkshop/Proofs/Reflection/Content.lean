import TsWorkshop.Proofs.Reflection.Canonical
import TsWorkshop.Proofs.Reflection.Writing

/-!
Sorting the members that a record keeps does not change the content of what is written for it
(`Descriptor.content_canonical` and its siblings): the members without a field stand behind the
fields, and the last of several members with one key is the one that counts, in either order.
-/

namespace TsWorkshop

open Fields
open Json (sortedMembers)

/-! ### Content of a written record -/

/-- Fields with the content of their values. -/
def contents (fields : List (String × Option Json)) : List (String × Option Json) :=
  fields.map fun field => (field.1, field.2.map Json.canonical)

theorem canonicalMembers_written (fields : List (String × Option Json)) (extra : Extra) :
    Json.canonicalMembers (written fields extra) =
      written (contents fields) (Json.canonicalMembers extra) := by
  induction fields with
  | nil => rfl
  | cons field rest ih =>
    obtain ⟨key, value⟩ := field
    rw [Json.canonicalMembers_eq_map] at ih ⊢
    cases value <;> simpa [written, contents] using ih

/-- Records with the same content in each field and in what they keep have the same content. -/
theorem canonical_written (fields fields' : List (String × Option Json)) (extra extra' : Extra)
    (same : contents fields = contents fields')
    (kept : sortedMembers extra = sortedMembers extra') :
    (Json.obj (written fields extra)).canonical =
      (Json.obj (written fields' extra')).canonical := by
  rw [Json.canonical_obj, Json.canonical_obj, sortedMembers, sortedMembers,
    canonicalMembers_written, canonicalMembers_written, same]
  exact congrArg Json.obj (Assoc.sorted_append_congr _ _ _ kept)

theorem sortedMembers_sortedMembers (members : Assoc Json) :
    sortedMembers (sortedMembers members) = sortedMembers members := by
  simpa using Json.canonical_canonical (.obj members)

theorem Comment.content_canonical (c : Comment) :
    c.canonical.toJson.canonical = c.toJson.canonical := by
  rw [Comment.toJson_eq, Comment.toJson_eq]
  exact canonical_written _ _ _ _ rfl (sortedMembers_sortedMembers c.extra)

theorem content_comment? (c : Option Comment) :
    ((c.map Comment.canonical).map Comment.toJson).map Json.canonical =
      (c.map Comment.toJson).map Json.canonical := by
  cases c with
  | none => rfl
  | some c => exact congrArg some c.content_canonical

theorem TypeParameter.content_canonical (p : TypeParameter) :
    p.canonical.toJson.canonical = p.toJson.canonical := by
  rw [TypeParameter.toJson_eq, TypeParameter.toJson_eq]
  exact canonical_written _ _ _ _ rfl (sortedMembers_sortedMembers p.extra)

theorem content_typeParameters (ps : Option (List TypeParameter)) :
    ((ps.map (List.map TypeParameter.canonical)).map fun ps =>
        Json.arr (ps.map TypeParameter.toJson)).map Json.canonical =
      (ps.map fun ps => Json.arr (ps.map TypeParameter.toJson)).map Json.canonical := by
  have each : Json.canonical ∘ TypeParameter.toJson ∘ TypeParameter.canonical =
      Json.canonical ∘ TypeParameter.toJson := funext TypeParameter.content_canonical
  cases ps with
  | none => rfl
  | some ps => simp [each]

/-! ### Descriptors -/

namespace Descriptor

/-- The fields written for a recognized descriptor, its tag first. -/
def fields : Descriptor → List (String × Option Json)
  | .array element _ =>
    [("type", some (.str "array")), ("elementType", some element.toJson)]
  | .conditional check base whenTrue whenFalse _ =>
    [("type", some (.str "conditional")), ("checkType", some check.toJson),
     ("extendsType", some base.toJson), ("trueType", some whenTrue.toJson),
     ("falseType", some whenFalse.toJson)]
  | .indexedAccess object index _ =>
    [("type", some (.str "indexedAccess")), ("objectType", some object.toJson),
     ("indexType", some index.toJson)]
  | .inferred name _ => [("type", some (.str "inferred")), ("name", some (.str name))]
  | .intersection types _ =>
    [("type", some (.str "intersection")), ("types", some (.arr (types.map toJson)))]
  | .intrinsic name _ => [("type", some (.str "intrinsic")), ("name", some (.str name))]
  | .predicate name asserts target _ =>
    [("type", some (.str "predicate")), ("name", some (.str name)),
     ("asserts", some (.bool asserts)), ("targetType", target.map toJson)]
  | .reference name id arguments qualifiedName package _ =>
    [("type", some (.str "reference")), ("name", some (.str name)),
     ("id", id.map fun n => .ofInt n.toInt),
     ("typeArguments", arguments.map fun ds => .arr (ds.map toJson)),
     ("qualifiedName", qualifiedName.map .str), ("package", package.map .str)]
  | .reflection declaration _ =>
    [("type", some (.str "reflection")), ("declaration", declaration.map Declaration.toJson)]
  | .literal value _ => [("type", some (.str "literal")), ("value", some value.toJson)]
  | .tuple elements _ =>
    [("type", some (.str "tuple")), ("elements", elements.map fun ds => .arr (ds.map toJson))]
  | .typeOperator operator target _ =>
    [("type", some (.str "typeOperator")), ("operator", some (.str operator)),
     ("target", some target.toJson)]
  | .union types _ => [("type", some (.str "union")), ("types", some (.arr (types.map toJson)))]
  | .unknown name _ => [("type", some (.str "unknown")), ("name", some (.str name))]
  | .unrecognized _ => []

/-- The members that a recognized descriptor keeps. -/
def kept : Descriptor → Extra
  | .array _ extra | .conditional _ _ _ _ extra | .indexedAccess _ _ extra | .inferred _ extra
  | .intersection _ extra | .intrinsic _ extra | .predicate _ _ _ extra
  | .reference _ _ _ _ _ extra | .reflection _ extra | .literal _ extra | .tuple _ extra
  | .typeOperator _ _ extra | .union _ extra | .unknown _ extra => extra
  | .unrecognized _ => []

theorem toJson_eq (d : Descriptor) (recognized : d.kind? ≠ none) :
    d.toJson = .obj (written d.fields d.kept) := by
  cases d with
  | unrecognized raw => exact absurd rfl recognized
  | _ => simp [toJson, fields, kept, written, descriptorsToJson_eq_map, idMember]

theorem kept_canonical (d : Descriptor) : d.canonical.kept = sortedMembers d.kept := by
  cases d with
  | unrecognized raw => simp [canonical, kept]; rfl
  | _ => simp [canonical, kept]

theorem kind?_canonical (d : Descriptor) : d.canonical.kind? = d.kind? := by
  cases d <;> simp [canonical, kind?]

/-- It is enough to compare the fields. -/
theorem content_of_fields (d : Descriptor) (recognized : d.kind? ≠ none)
    (same : contents d.canonical.fields = contents d.fields) :
    d.canonical.toJson.canonical = d.toJson.canonical := by
  rw [toJson_eq d recognized, toJson_eq d.canonical (d.kind?_canonical ▸ recognized)]
  refine canonical_written _ _ _ _ same ?_
  rw [kept_canonical, sortedMembers_sortedMembers]

end Descriptor

/-! ### Records of a reflection -/

theorem Parameter.content_of_parts (p : Parameter)
    (type : p.type.map (Json.canonical ∘ Descriptor.toJson ∘ Descriptor.canonical) =
      p.type.map (Json.canonical ∘ Descriptor.toJson)) :
    p.canonical.toJson.canonical = p.toJson.canonical := by
  rw [Parameter.toJson_eq, Parameter.toJson_eq, Parameter.canonical_eq]
  refine canonical_written _ _ _ _ ?_ (sortedMembers_sortedMembers p.extra)
  simp only [Parameter.fields, contents, List.map_cons, content_comment?]
  simp [type]

-- Lists and optional parts have statements of their own, so that the recursion stays structural.
mutual

/-- Sorting the members that a descriptor keeps leaves the content of what is written for it. -/
theorem Descriptor.content_canonical : ∀ d : Descriptor,
    d.canonical.toJson.canonical = d.toJson.canonical
  | .array element _ => by
    refine Descriptor.content_of_fields _ nofun ?_
    simp [Descriptor.canonical, Descriptor.fields, contents, element.content_canonical]
  | .conditional check base whenTrue whenFalse _ => by
    refine Descriptor.content_of_fields _ nofun ?_
    simp [Descriptor.canonical, Descriptor.fields, contents, check.content_canonical,
      base.content_canonical, whenTrue.content_canonical, whenFalse.content_canonical]
  | .indexedAccess object index _ => by
    refine Descriptor.content_of_fields _ nofun ?_
    simp [Descriptor.canonical, Descriptor.fields, contents, object.content_canonical,
      index.content_canonical]
  | .intersection types _ | .union types _ => by
    refine Descriptor.content_of_fields _ nofun ?_
    simp [Descriptor.canonical, Descriptor.fields, contents, content_descriptors types]
  | .predicate _ _ target _ => by
    refine Descriptor.content_of_fields _ nofun ?_
    simp [Descriptor.fields, contents, content_descriptor? target]
  | .reference _ _ (some arguments) _ _ _ => by
    refine Descriptor.content_of_fields _ nofun ?_
    simp [Descriptor.fields, contents, content_descriptors arguments]
  | .reflection (some declaration) _ => by
    refine Descriptor.content_of_fields _ nofun ?_
    simp [Descriptor.fields, contents, declaration.content_canonical]
  | .tuple (some elements) _ => by
    refine Descriptor.content_of_fields _ nofun ?_
    simp [Descriptor.fields, contents, content_descriptors elements]
  | .typeOperator _ target _ => by
    refine Descriptor.content_of_fields _ nofun ?_
    simp [Descriptor.canonical, Descriptor.fields, contents, target.content_canonical]
  | .inferred _ _ | .intrinsic _ _ | .literal _ _ | .unknown _ _ | .reference _ _ none _ _ _
  | .reflection none _ | .tuple none _ => by
    refine Descriptor.content_of_fields _ nofun ?_
    simp [Descriptor.canonical, Descriptor.fields]
  | .unrecognized _ => by
    rw [Descriptor.canonical, Descriptor.toJson, Descriptor.toJson, Json.canonical_canonical]

theorem content_descriptor? : ∀ d : Option Descriptor,
    d.map (Json.canonical ∘ Descriptor.toJson ∘ Descriptor.canonical) =
      d.map (Json.canonical ∘ Descriptor.toJson)
  | none => rfl
  | some d => congrArg some d.content_canonical

theorem content_descriptors : ∀ ds : List Descriptor,
    ds.map (Json.canonical ∘ Descriptor.toJson ∘ Descriptor.canonical) =
      ds.map (Json.canonical ∘ Descriptor.toJson)
  | [] => rfl
  | d :: rest => congrArg₂ List.cons d.content_canonical (content_descriptors rest)

theorem content_parameters : ∀ ps : List Parameter,
    ps.map (Json.canonical ∘ Parameter.toJson ∘ Parameter.canonical) =
      ps.map (Json.canonical ∘ Parameter.toJson)
  | [] => rfl
  | ⟨id, name, type, defaultValue, comment, extra⟩ :: rest => by
    have first := Parameter.content_of_parts ⟨id, name, type, defaultValue, comment, extra⟩
      (content_descriptor? type)
    exact congrArg₂ List.cons first (content_parameters rest)

theorem content_parameters? : ∀ ps : Option (List Parameter),
    ((ps.map (List.map Parameter.canonical)).map fun ps =>
        Json.arr (ps.map Parameter.toJson)).map Json.canonical =
      (ps.map fun ps => Json.arr (ps.map Parameter.toJson)).map Json.canonical
  | none => rfl
  | some ps => by simp [content_parameters ps]

theorem Signature.content_canonical : ∀ s : Signature,
    s.canonical.toJson.canonical = s.toJson.canonical
  | ⟨_, _, _, _, _, parameters, type, extra⟩ => by
    have listed := content_parameters? parameters
    rw [Signature.toJson_eq, Signature.toJson_eq, Signature.canonical_eq]
    refine canonical_written _ _ _ _ ?_ (sortedMembers_sortedMembers extra)
    simp only [Signature.fields, contents, List.map_cons, content_comment?, listed]
    simp [content_descriptor? type]

theorem content_signatures : ∀ ss : List Signature,
    ss.map (Json.canonical ∘ Signature.toJson ∘ Signature.canonical) =
      ss.map (Json.canonical ∘ Signature.toJson)
  | [] => rfl
  | s :: rest => congrArg₂ List.cons s.content_canonical (content_signatures rest)

theorem content_signatures? : ∀ ss : Option (List Signature),
    ((ss.map (List.map Signature.canonical)).map fun ss =>
        Json.arr (ss.map Signature.toJson)).map Json.canonical =
      (ss.map fun ss => Json.arr (ss.map Signature.toJson)).map Json.canonical
  | none => rfl
  | some ss => by simp [content_signatures ss]

theorem content_oneOrMany? : ∀ s : Option (OneOrMany Signature),
    s.map (Json.canonical ∘ OneOrMany.signatureToJson ∘ OneOrMany.canonical) =
      s.map (Json.canonical ∘ OneOrMany.signatureToJson)
  | none => rfl
  | some (.one s) => by
    simp [OneOrMany.canonical, OneOrMany.signatureToJson, s.content_canonical]
  | some (.many ss) => by
    simp [OneOrMany.canonical, OneOrMany.signatureToJson, content_signatures ss]

theorem Declaration.content_canonical : ∀ d : Declaration,
    d.canonical.toJson.canonical = d.toJson.canonical
  | ⟨_, _, _, _, _, children, signatures, getSignature, setSignature, type, typeParameter,
      typeParameters, _, extra⟩ => by
    have members := content_declarations? children
    have callables := content_signatures? signatures
    have first := content_typeParameters typeParameter
    have second := content_typeParameters typeParameters
    rw [Declaration.toJson_eq, Declaration.toJson_eq, Declaration.canonical_eq]
    refine canonical_written _ _ _ _ ?_ (sortedMembers_sortedMembers extra)
    simp only [Declaration.fields, contents, List.map_cons, content_comment?, members, callables,
      first, second]
    simp [content_descriptor? type, content_oneOrMany? getSignature,
      content_oneOrMany? setSignature]

theorem content_declarations? : ∀ ds : Option (List Declaration),
    ((ds.map (List.map Declaration.canonical)).map fun ds =>
        Json.arr (ds.map Declaration.toJson)).map Json.canonical =
      (ds.map fun ds => Json.arr (ds.map Declaration.toJson)).map Json.canonical
  | none => rfl
  | some ds => by simp [content_declarations ds]

theorem content_declarations : ∀ ds : List Declaration,
    ds.map (Json.canonical ∘ Declaration.toJson ∘ Declaration.canonical) =
      ds.map (Json.canonical ∘ Declaration.toJson)
  | [] => rfl
  | d :: rest => congrArg₂ List.cons d.content_canonical (content_declarations rest)

end

end TsWorkshop
