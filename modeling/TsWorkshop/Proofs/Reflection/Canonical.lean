import TsWorkshop.Proofs.Json.Canonical
import TsWorkshop.Reflection.Decode

/-!
Records with sorted members. `Descriptor.canonical` and its siblings sort the members that a record
keeps, at every depth, as `Json.canonical` does for a value.
-/

namespace TsWorkshop

open Json (sortedMembers)

/-! ### Canonical records -/

def Comment.canonical (c : Comment) : Comment := { c with extra := sortedMembers c.extra }

def TypeParameter.canonical (p : TypeParameter) : TypeParameter :=
  { p with extra := sortedMembers p.extra }

mutual

/-- The descriptor with the members it keeps sorted by key, at every depth. -/
def Descriptor.canonical : Descriptor → Descriptor
  | .array element extra => .array element.canonical (sortedMembers extra)
  | .conditional check base whenTrue whenFalse extra =>
    .conditional check.canonical base.canonical whenTrue.canonical whenFalse.canonical
      (sortedMembers extra)
  | .indexedAccess object index extra =>
    .indexedAccess object.canonical index.canonical (sortedMembers extra)
  | .inferred name extra => .inferred name (sortedMembers extra)
  | .intersection types extra =>
    .intersection (types.map Descriptor.canonical) (sortedMembers extra)
  | .intrinsic name extra => .intrinsic name (sortedMembers extra)
  | .predicate name asserts target extra =>
    .predicate name asserts (match target with | none => none | some d => some d.canonical)
      (sortedMembers extra)
  | .reference name id arguments qualifiedName package extra =>
    .reference name id
      (match arguments with | none => none | some ds => some (ds.map Descriptor.canonical))
      qualifiedName package (sortedMembers extra)
  | .reflection declaration extra =>
    .reflection (match declaration with | none => none | some d => some d.canonical)
      (sortedMembers extra)
  | .literal value extra => .literal value (sortedMembers extra)
  | .tuple elements extra =>
    .tuple (match elements with | none => none | some ds => some (ds.map Descriptor.canonical))
      (sortedMembers extra)
  | .typeOperator operator target extra =>
    .typeOperator operator target.canonical (sortedMembers extra)
  | .union types extra => .union (types.map Descriptor.canonical) (sortedMembers extra)
  | .unknown name extra => .unknown name (sortedMembers extra)
  | .unrecognized raw => .unrecognized raw.canonical
termination_by d => sizeOf d

def Parameter.canonical : Parameter → Parameter
  | { id, name, type, defaultValue, comment, extra } =>
    { id, name, defaultValue
      type := match type with | none => none | some d => some d.canonical
      comment := comment.map Comment.canonical
      extra := sortedMembers extra }
termination_by p => sizeOf p

def Signature.canonical : Signature → Signature
  | { id, name, kind, kindString, comment, parameters, type, extra } =>
    { id, name, kind, kindString
      comment := comment.map Comment.canonical
      parameters :=
        match parameters with | none => none | some ps => some (ps.map Parameter.canonical)
      type := match type with | none => none | some d => some d.canonical
      extra := sortedMembers extra }
termination_by s => sizeOf s

/-- The signatures of an accessor, each with sorted members. -/
def OneOrMany.canonical : OneOrMany Signature → OneOrMany Signature
  | .one s => .one s.canonical
  | .many ss => .many (ss.map Signature.canonical)
termination_by s => sizeOf s

/-- The declaration with the members it keeps sorted by key, at every depth. -/
def Declaration.canonical : Declaration → Declaration
  | { id, name, kind, kindString, comment, children, signatures, getSignature, setSignature, type,
      typeParameter, typeParameters, defaultValue, extra } =>
    { id, name, kind, kindString, defaultValue
      comment := comment.map Comment.canonical
      children :=
        match children with | none => none | some ds => some (ds.map Declaration.canonical)
      signatures :=
        match signatures with | none => none | some ss => some (ss.map Signature.canonical)
      getSignature := match getSignature with | none => none | some s => some s.canonical
      setSignature := match setSignature with | none => none | some s => some s.canonical
      type := match type with | none => none | some d => some d.canonical
      typeParameter := typeParameter.map fun ps => ps.map TypeParameter.canonical
      typeParameters := typeParameters.map fun ps => ps.map TypeParameter.canonical
      extra := sortedMembers extra }
termination_by d => sizeOf d

end

@[simp] theorem Descriptor.canonical_predicate (name : String) (asserts : Bool)
    (target : Option Descriptor) (extra : Extra) :
    (Descriptor.predicate name asserts target extra).canonical =
      .predicate name asserts (target.map Descriptor.canonical) (sortedMembers extra) := by
  cases target <;> simp [Descriptor.canonical]

@[simp] theorem Descriptor.canonical_reference (name : String) (id : Option Int64)
    (arguments : Option (List Descriptor)) (qualifiedName package : Option String)
    (extra : Extra) :
    (Descriptor.reference name id arguments qualifiedName package extra).canonical =
      .reference name id (arguments.map (List.map Descriptor.canonical)) qualifiedName package
        (sortedMembers extra) := by
  cases arguments <;> simp [Descriptor.canonical]

@[simp] theorem Descriptor.canonical_reflection (declaration : Option Declaration)
    (extra : Extra) : (Descriptor.reflection declaration extra).canonical =
      .reflection (declaration.map Declaration.canonical) (sortedMembers extra) := by
  cases declaration <;> simp [Descriptor.canonical]

@[simp] theorem Descriptor.canonical_tuple (elements : Option (List Descriptor)) (extra : Extra) :
    (Descriptor.tuple elements extra).canonical =
      .tuple (elements.map (List.map Descriptor.canonical)) (sortedMembers extra) := by
  cases elements <;> simp [Descriptor.canonical]

theorem Parameter.canonical_eq (p : Parameter) :
    p.canonical = { p with
      type := p.type.map Descriptor.canonical
      comment := p.comment.map Comment.canonical
      extra := sortedMembers p.extra } := by
  obtain ⟨id, name, type, defaultValue, comment, extra⟩ := p
  cases type <;> simp [Parameter.canonical]

theorem Signature.canonical_eq (s : Signature) :
    s.canonical = { s with
      comment := s.comment.map Comment.canonical
      parameters := s.parameters.map (List.map Parameter.canonical)
      type := s.type.map Descriptor.canonical
      extra := sortedMembers s.extra } := by
  obtain ⟨id, name, kind, kindString, comment, parameters, type, extra⟩ := s
  cases type <;> cases parameters <;> simp [Signature.canonical]

theorem Declaration.canonical_eq (d : Declaration) :
    d.canonical = { d with
      comment := d.comment.map Comment.canonical
      children := d.children.map (List.map Declaration.canonical)
      signatures := d.signatures.map (List.map Signature.canonical)
      getSignature := d.getSignature.map OneOrMany.canonical
      setSignature := d.setSignature.map OneOrMany.canonical
      type := d.type.map Descriptor.canonical
      typeParameter := d.typeParameter.map (List.map TypeParameter.canonical)
      typeParameters := d.typeParameters.map (List.map TypeParameter.canonical)
      extra := sortedMembers d.extra } := by
  obtain ⟨id, name, kind, kindString, comment, children, signatures, getSignature, setSignature,
    type, typeParameter, typeParameters, defaultValue, extra⟩ := d
  simp only [Declaration.canonical.eq_def]
  congr 1
  · cases children <;> rfl
  · cases signatures <;> rfl
  · cases getSignature <;> rfl
  · cases setSignature <;> rfl
  · cases type <;> rfl

end TsWorkshop
