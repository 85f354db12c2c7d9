import TsWorkshop.Proofs.Reflection.Canonical

/-!
Revised records. A `Revision` puts other ids and other members without a field into a record, at
every depth, and leaves the rest as it is. Sorting the members that a record keeps is one
(`Descriptor.canonical_eq_revised`); another keeps nothing but what has a field
(`Revision.modelled`).
-/

namespace TsWorkshop

/-- A change to what stands in a record beside its payload. -/
structure Revision where
  id : Option Int64 → Option Int64
  extra : Extra → Extra
  comment : Comment → Comment
  /-- The change to a descriptor that is not recognized. -/
  raw : Json → Json

/-! ### Revised records -/

def TypeParameter.revised (e : Revision) (p : TypeParameter) : TypeParameter :=
  { p with extra := e.extra p.extra }

mutual

/-- The descriptor with its ids and the members it keeps changed, at every depth. -/
def Descriptor.revised (e : Revision) : Descriptor → Descriptor
  | .array element extra => .array (element.revised e) (e.extra extra)
  | .conditional check base whenTrue whenFalse extra =>
    .conditional (check.revised e) (base.revised e) (whenTrue.revised e) (whenFalse.revised e)
      (e.extra extra)
  | .indexedAccess object index extra =>
    .indexedAccess (object.revised e) (index.revised e) (e.extra extra)
  | .inferred name extra => .inferred name (e.extra extra)
  | .intersection types extra => .intersection (types.map (Descriptor.revised e)) (e.extra extra)
  | .intrinsic name extra => .intrinsic name (e.extra extra)
  | .predicate name asserts target extra =>
    .predicate name asserts (match target with | none => none | some d => some (d.revised e))
      (e.extra extra)
  | .reference name id arguments qualifiedName package extra =>
    .reference name (e.id id)
      (match arguments with | none => none | some ds => some (ds.map (Descriptor.revised e)))
      qualifiedName package (e.extra extra)
  | .reflection declaration extra =>
    .reflection (match declaration with | none => none | some d => some (d.revised e))
      (e.extra extra)
  | .literal value extra => .literal value (e.extra extra)
  | .tuple elements extra =>
    .tuple (match elements with | none => none | some ds => some (ds.map (Descriptor.revised e)))
      (e.extra extra)
  | .typeOperator operator target extra =>
    .typeOperator operator (target.revised e) (e.extra extra)
  | .union types extra => .union (types.map (Descriptor.revised e)) (e.extra extra)
  | .unknown name extra => .unknown name (e.extra extra)
  | .unrecognized raw => .unrecognized (e.raw raw)
termination_by d => sizeOf d

def Parameter.revised (e : Revision) : Parameter → Parameter
  | { id, name, type, defaultValue, comment, extra } =>
    { name, defaultValue
      id := e.id id
      type := match type with | none => none | some d => some (d.revised e)
      comment := comment.map e.comment
      extra := e.extra extra }
termination_by p => sizeOf p

def Signature.revised (e : Revision) : Signature → Signature
  | { id, name, kind, kindString, comment, parameters, type, extra } =>
    { name, kind, kindString
      id := e.id id
      comment := comment.map e.comment
      parameters :=
        match parameters with | none => none | some ps => some (ps.map (Parameter.revised e))
      type := match type with | none => none | some d => some (d.revised e)
      extra := e.extra extra }
termination_by s => sizeOf s

/-- The signatures of an accessor, each revised. -/
def OneOrMany.revised (e : Revision) : OneOrMany Signature → OneOrMany Signature
  | .one s => .one (s.revised e)
  | .many ss => .many (ss.map (Signature.revised e))
termination_by s => sizeOf s

/-- The declaration with its ids and the members it keeps changed, at every depth. -/
def Declaration.revised (e : Revision) : Declaration → Declaration
  | { id, name, kind, kindString, comment, children, signatures, getSignature, setSignature, type,
      typeParameter, typeParameters, defaultValue, extra } =>
    { name, kind, kindString, defaultValue
      id := e.id id
      comment := comment.map e.comment
      children :=
        match children with | none => none | some ds => some (ds.map (Declaration.revised e))
      signatures :=
        match signatures with | none => none | some ss => some (ss.map (Signature.revised e))
      getSignature := match getSignature with | none => none | some s => some (s.revised e)
      setSignature := match setSignature with | none => none | some s => some (s.revised e)
      type := match type with | none => none | some d => some (d.revised e)
      typeParameter := typeParameter.map fun ps => ps.map (TypeParameter.revised e)
      typeParameters := typeParameters.map fun ps => ps.map (TypeParameter.revised e)
      extra := e.extra extra }
termination_by d => sizeOf d

end

variable (e : Revision)

@[simp] theorem Descriptor.revised_predicate (name : String) (asserts : Bool)
    (target : Option Descriptor) (extra : Extra) :
    (Descriptor.predicate name asserts target extra).revised e =
      .predicate name asserts (target.map (Descriptor.revised e)) (e.extra extra) := by
  cases target <;> simp [Descriptor.revised]

@[simp] theorem Descriptor.revised_reference (name : String) (id : Option Int64)
    (arguments : Option (List Descriptor)) (qualifiedName package : Option String)
    (extra : Extra) :
    (Descriptor.reference name id arguments qualifiedName package extra).revised e =
      .reference name (e.id id) (arguments.map (List.map (Descriptor.revised e))) qualifiedName
        package (e.extra extra) := by
  cases arguments <;> simp [Descriptor.revised]

@[simp] theorem Descriptor.revised_reflection (declaration : Option Declaration) (extra : Extra) :
    (Descriptor.reflection declaration extra).revised e =
      .reflection (declaration.map (Declaration.revised e)) (e.extra extra) := by
  cases declaration <;> simp [Descriptor.revised]

@[simp] theorem Descriptor.revised_tuple (elements : Option (List Descriptor)) (extra : Extra) :
    (Descriptor.tuple elements extra).revised e =
      .tuple (elements.map (List.map (Descriptor.revised e))) (e.extra extra) := by
  cases elements <;> simp [Descriptor.revised]

theorem Parameter.revised_eq (p : Parameter) :
    p.revised e = { p with
      id := e.id p.id
      type := p.type.map (Descriptor.revised e)
      comment := p.comment.map e.comment
      extra := e.extra p.extra } := by
  obtain ⟨id, name, type, defaultValue, comment, extra⟩ := p
  cases type <;> simp [Parameter.revised]

theorem Signature.revised_eq (s : Signature) :
    s.revised e = { s with
      id := e.id s.id
      comment := s.comment.map e.comment
      parameters := s.parameters.map (List.map (Parameter.revised e))
      type := s.type.map (Descriptor.revised e)
      extra := e.extra s.extra } := by
  obtain ⟨id, name, kind, kindString, comment, parameters, type, extra⟩ := s
  cases type <;> cases parameters <;> simp [Signature.revised]

theorem Declaration.revised_eq (d : Declaration) :
    d.revised e = { d with
      id := e.id d.id
      comment := d.comment.map e.comment
      children := d.children.map (List.map (Declaration.revised e))
      signatures := d.signatures.map (List.map (Signature.revised e))
      getSignature := d.getSignature.map (OneOrMany.revised e)
      setSignature := d.setSignature.map (OneOrMany.revised e)
      type := d.type.map (Descriptor.revised e)
      typeParameter := d.typeParameter.map (List.map (TypeParameter.revised e))
      typeParameters := d.typeParameters.map (List.map (TypeParameter.revised e))
      extra := e.extra d.extra } := by
  obtain ⟨id, name, kind, kindString, comment, children, signatures, getSignature, setSignature,
    type, typeParameter, typeParameters, defaultValue, extra⟩ := d
  simp only [Declaration.revised.eq_def]
  congr 1
  · cases children <;> rfl
  · cases signatures <;> rfl
  · cases getSignature <;> rfl
  · cases setSignature <;> rfl
  · cases type <;> rfl

/-! ### Sorted members -/

/-- The revision that sorts the members that a record keeps. -/
def Revision.sorted : Revision where
  id := fun id => id
  extra := Json.sortedMembers
  comment := Comment.canonical
  raw := Json.canonical

-- Lists and optional parts have statements of their own, so that the recursion stays structural.
mutual

/-- Sorting the members that a descriptor keeps is a revision. -/
theorem Descriptor.canonical_eq_revised : ∀ d : Descriptor, d.canonical = d.revised .sorted
  | .array element _ => by
    simp only [Descriptor.canonical, Descriptor.revised, element.canonical_eq_revised]
    rfl
  | .conditional check base whenTrue whenFalse _ => by
    simp only [Descriptor.canonical, Descriptor.revised, check.canonical_eq_revised,
      base.canonical_eq_revised, whenTrue.canonical_eq_revised, whenFalse.canonical_eq_revised]
    rfl
  | .indexedAccess object index _ => by
    simp only [Descriptor.canonical, Descriptor.revised, object.canonical_eq_revised,
      index.canonical_eq_revised]
    rfl
  | .intersection types _ | .union types _ => by
    simp only [Descriptor.canonical, Descriptor.revised, map_canonical_descriptors types]
    rfl
  | .predicate _ _ target _ => by
    rw [Descriptor.canonical_predicate, Descriptor.revised_predicate,
      map_canonical_descriptor? target]
    rfl
  | .reference _ _ none _ _ _ | .reflection none _ | .tuple none _ => by
    simp only [Descriptor.canonical, Descriptor.revised]
    rfl
  | .reference _ _ (some arguments) _ _ _ => by
    simp only [Descriptor.canonical, Descriptor.revised, map_canonical_descriptors arguments]
    rfl
  | .reflection (some declaration) _ => by
    simp only [Descriptor.canonical, Descriptor.revised, declaration.canonical_eq_revised]
    rfl
  | .tuple (some elements) _ => by
    simp only [Descriptor.canonical, Descriptor.revised, map_canonical_descriptors elements]
    rfl
  | .typeOperator _ target _ => by
    simp only [Descriptor.canonical, Descriptor.revised, target.canonical_eq_revised]
    rfl
  | .inferred _ _ | .intrinsic _ _ | .literal _ _ | .unknown _ _ | .unrecognized _ => by
    simp only [Descriptor.canonical, Descriptor.revised]
    rfl

theorem map_canonical_descriptor? : ∀ d : Option Descriptor,
    d.map Descriptor.canonical = d.map (Descriptor.revised .sorted)
  | none => rfl
  | some d => congrArg some d.canonical_eq_revised

theorem map_canonical_descriptors : ∀ ds : List Descriptor,
    ds.map Descriptor.canonical = ds.map (Descriptor.revised .sorted)
  | [] => rfl
  | d :: rest => by
    rw [List.map_cons, List.map_cons, d.canonical_eq_revised, map_canonical_descriptors rest]

theorem map_canonical_parameters : ∀ ps : List Parameter,
    ps.map Parameter.canonical = ps.map (Parameter.revised .sorted)
  | [] => rfl
  | ⟨_, _, type, _, _, _⟩ :: rest => by
    rw [List.map_cons, List.map_cons, Parameter.canonical_eq, Parameter.revised_eq,
      map_canonical_descriptor? type, map_canonical_parameters rest]
    rfl

theorem Signature.canonical_eq_revised : ∀ s : Signature, s.canonical = s.revised .sorted
  | ⟨_, _, _, _, _, none, type, _⟩ => by
    rw [Signature.canonical_eq, Signature.revised_eq, map_canonical_descriptor? type]
    rfl
  | ⟨_, _, _, _, _, some parameters, type, _⟩ => by
    rw [Signature.canonical_eq, Signature.revised_eq, map_canonical_descriptor? type]
    dsimp only [Option.map_some]
    rw [map_canonical_parameters parameters]
    rfl

theorem map_canonical_signatures : ∀ ss : List Signature,
    ss.map Signature.canonical = ss.map (Signature.revised .sorted)
  | [] => rfl
  | s :: rest => by
    rw [List.map_cons, List.map_cons, s.canonical_eq_revised, map_canonical_signatures rest]

theorem map_canonical_signatures? : ∀ ss : Option (List Signature),
    ss.map (List.map Signature.canonical) = ss.map (List.map (Signature.revised .sorted))
  | none => rfl
  | some ss => congrArg some (map_canonical_signatures ss)

theorem OneOrMany.canonical_eq_revised : ∀ s : OneOrMany Signature,
    s.canonical = s.revised .sorted
  | .one s => by rw [OneOrMany.canonical, OneOrMany.revised, s.canonical_eq_revised]
  | .many ss => by rw [OneOrMany.canonical, OneOrMany.revised, map_canonical_signatures ss]

theorem map_canonical_oneOrMany? : ∀ s : Option (OneOrMany Signature),
    s.map OneOrMany.canonical = s.map (OneOrMany.revised .sorted)
  | none => rfl
  | some s => congrArg some s.canonical_eq_revised

theorem Declaration.canonical_eq_revised : ∀ d : Declaration, d.canonical = d.revised .sorted
  | ⟨_, _, _, _, _, none, signatures, getSignature, setSignature, type, _, _, _, _⟩ => by
    rw [Declaration.canonical_eq, Declaration.revised_eq, map_canonical_signatures? signatures,
      map_canonical_oneOrMany? getSignature, map_canonical_oneOrMany? setSignature,
      map_canonical_descriptor? type]
    rfl
  | ⟨_, _, _, _, _, some children, signatures, getSignature, setSignature, type, _, _, _, _⟩ => by
    rw [Declaration.canonical_eq, Declaration.revised_eq, map_canonical_signatures? signatures,
      map_canonical_oneOrMany? getSignature, map_canonical_oneOrMany? setSignature,
      map_canonical_descriptor? type]
    dsimp only [Option.map_some]
    rw [map_canonical_declarations children]
    rfl

theorem map_canonical_declarations : ∀ ds : List Declaration,
    ds.map Declaration.canonical = ds.map (Declaration.revised .sorted)
  | [] => rfl
  | d :: rest => by
    rw [List.map_cons, List.map_cons, d.canonical_eq_revised, map_canonical_declarations rest]

end

end TsWorkshop
