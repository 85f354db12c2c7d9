import TsWorkshop.Proofs.Json.Path
import TsWorkshop.Proofs.Reflection.Reading

/-!
Where descriptors stand in a reflection. `parts` lists the fields of a record that may hold
descriptors, each with the record as it is with another value of the field; `slot?` follows a path
through such fields to a descriptor.
-/

namespace TsWorkshop

/-- The descriptor that is read for an optional field. -/
def Descriptor.ofOptional : Json → Option Descriptor
  | .null => none
  | v => some (Descriptor.ofJson v)

/-- A slot of `α`: a place where a descriptor stands, and `α` as it is with another value there. -/
structure Slot (α : Type) where
  descriptor : Descriptor
  /-- The descriptor may be absent, which `null` stands for. -/
  optional : Bool
  fill : Json → α

/-- The value of a field that may hold descriptors, and `α` with another value of the field. -/
inductive Part (α : Type) where
  | type (d : Descriptor) (put : Descriptor → α)
  | optionalType (d : Descriptor) (put : Option Descriptor → α)
  | types (ds : List Descriptor) (put : List Descriptor → α)
  | declaration (d : Declaration) (put : Declaration → α)
  | declarations (ds : List Declaration) (put : List Declaration → α)
  | signature (s : Signature) (put : Signature → α)
  | signatures (ss : List Signature) (put : List Signature → α)
  | parameter (p : Parameter) (put : Parameter → α)
  | parameters (ps : List Parameter) (put : List Parameter → α)

namespace Part

variable {α β : Type}

/-- The same field, seen from a value that holds the record. -/
def map (f : α → β) : Part α → Part β
  | type d put => type d (f ∘ put)
  | optionalType d put => optionalType d (f ∘ put)
  | types ds put => types ds (f ∘ put)
  | declaration d put => declaration d (f ∘ put)
  | declarations ds put => declarations ds (f ∘ put)
  | signature s put => signature s (f ∘ put)
  | signatures ss put => signatures ss (f ∘ put)
  | parameter p put => parameter p (f ∘ put)
  | parameters ps put => parameters ps (f ∘ put)

/-- The signatures of an accessor in the spelling in which they were read. -/
def accessor (s : OneOrMany Signature) (put : OneOrMany Signature → α) : Part α :=
  match s with
  | .one s => signature s fun s => put (.one s)
  | .many ss => signatures ss fun ss => put (.many ss)

/-- A field that is there. -/
def listed (name : String) (part : Option (Part α)) : Assoc (Part α) :=
  (part.map fun part => (name, part)).toList

end Part

/-! ### The fields of each record -/

/-- A field that is absent or an empty list holds no descriptors. -/
def Descriptor.parts : Descriptor → Assoc (Part Descriptor)
  | .array element extra => [("elementType", .type element fun d => .array d extra)]
  | .conditional check base whenTrue whenFalse extra =>
    [("checkType", .type check fun d => .conditional d base whenTrue whenFalse extra),
     ("extendsType", .type base fun d => .conditional check d whenTrue whenFalse extra),
     ("trueType", .type whenTrue fun d => .conditional check base d whenFalse extra),
     ("falseType", .type whenFalse fun d => .conditional check base whenTrue d extra)]
  | .indexedAccess object index extra =>
    [("objectType", .type object fun d => .indexedAccess d index extra),
     ("indexType", .type index fun d => .indexedAccess object d extra)]
  | .intersection (first :: rest) extra =>
    [("types", .types (first :: rest) fun ds => .intersection ds extra)]
  | .predicate name asserts (some target) extra =>
    [("targetType", .optionalType target fun d => .predicate name asserts d extra)]
  | .reference name id (some arguments) qualifiedName package extra =>
    [("typeArguments", .types arguments fun ds =>
      .reference name id (some ds) qualifiedName package extra)]
  | .reflection (some declaration) extra =>
    [("declaration", .declaration declaration fun d => .reflection (some d) extra)]
  | .tuple (some elements) extra =>
    [("elements", .types elements fun ds => .tuple (some ds) extra)]
  | .typeOperator operator target extra =>
    [("target", .type target fun d => .typeOperator operator d extra)]
  | .union (first :: rest) extra =>
    [("types", .types (first :: rest) fun ds => .union ds extra)]
  | .intersection [] _ | .union [] _
  | .predicate _ _ none _ | .reference _ _ none _ _ _ | .reflection none _ | .tuple none _
  | .inferred .. | .intrinsic .. | .literal .. | .unknown .. | .unrecognized _ => []

def Parameter.parts (p : Parameter) : Assoc (Part Parameter) :=
  Part.listed "type" (p.type.map fun d => .optionalType d fun d => { p with type := d })

def Signature.parts (s : Signature) : Assoc (Part Signature) :=
  Part.listed "parameters"
    (s.parameters.map fun ps => .parameters ps fun ps => { s with parameters := some ps }) ++
  Part.listed "type" (s.type.map fun d => .optionalType d fun d => { s with type := d })

def Declaration.parts (d : Declaration) : Assoc (Part Declaration) :=
  Part.listed "children"
    (d.children.map fun ds => .declarations ds fun ds => { d with children := some ds }) ++
  Part.listed "signatures"
    (d.signatures.map fun ss => .signatures ss fun ss => { d with signatures := some ss }) ++
  Part.listed "getSignature"
    (d.getSignature.map fun s => .accessor s fun s => { d with getSignature := some s }) ++
  Part.listed "setSignature"
    (d.setSignature.map fun s => .accessor s fun s => { d with setSignature := some s }) ++
  Part.listed "type" (d.type.map fun t => .optionalType t fun t => { d with type := t })

/-! ### Following a path -/

namespace Part

variable {α : Type}

/-- One step on: from a record to one of its fields, or from a list to one of its items. -/
def step? : Json.Step → Part α → Option (Part α)
  | .key name, type d put => (Assoc.get? name d.parts).map fun part => part.map put
  | .key name, optionalType d put =>
    (Assoc.get? name d.parts).map fun part => part.map fun d => put (some d)
  | .key name, declaration d put => (Assoc.get? name d.parts).map fun part => part.map put
  | .key name, signature s put => (Assoc.get? name s.parts).map fun part => part.map put
  | .key name, parameter p put => (Assoc.get? name p.parts).map fun part => part.map put
  | .item i, types ds put => ds[i]?.map fun d => type d fun d => put (ds.set i d)
  | .item i, declarations ds put => ds[i]?.map fun d => declaration d fun d => put (ds.set i d)
  | .item i, signatures ss put => ss[i]?.map fun s => signature s fun s => put (ss.set i s)
  | .item i, parameters ps put => ps[i]?.map fun p => parameter p fun p => put (ps.set i p)
  | _, _ => none

/-- The slot of a descriptor that stands right here. -/
def here? : Part α → Option (Slot α)
  | type d put =>
    some { descriptor := d, optional := false, fill := fun new => put (Descriptor.ofJson new) }
  | optionalType d put =>
    some
      { descriptor := d, optional := true, fill := fun new => put (Descriptor.ofOptional new) }
  | _ => none

/-- The slot that a path leads to from the value of a field. -/
def slot? : Json.Path → Part α → Option (Slot α)
  | [], part => part.here?
  | step :: rest, part => (part.step? step).bind (slot? rest)

end Part

/-- The slot of the descriptor that a path leads to. -/
def Declaration.slot? (path : Json.Path) (d : Declaration) : Option (Slot Declaration) :=
  (Part.declaration d fun d => d).slot? path

/-- What becomes of a slot when `new` is read in it: nothing but the descriptor changes, and the
slot is gone if the descriptor may be absent and `new` is `null`. -/
def Slot.after {α : Type} (p : Slot α) (new : Json) : Option (Slot α) :=
  match p.optional, new with
  | true, .null => none
  | _, new => some { p with descriptor := Descriptor.ofJson new }

/-! ### A slot stays where it is -/

namespace Part

variable {α β : Type}

/-- Another value of the field is found by `view` where this one is. A list does not become
empty. -/
def StaysAt (view : α → Option (Part α)) : Part α → Prop
  | type _ put => ∀ d, view (put d) = some (type d put)
  | optionalType _ put =>
    (∀ d, view (put (some d)) = some (optionalType d put)) ∧ view (put none) = none
  | types _ put => ∀ ds, ds ≠ [] → view (put ds) = some (types ds put)
  | declaration _ put => ∀ d, view (put d) = some (declaration d put)
  | declarations _ put => ∀ ds, view (put ds) = some (declarations ds put)
  | signature _ put => ∀ s, view (put s) = some (signature s put)
  | signatures _ put => ∀ ss, view (put ss) = some (signatures ss put)
  | parameter _ put => ∀ p, view (put p) = some (parameter p put)
  | parameters _ put => ∀ ps, view (put ps) = some (parameters ps put)

theorem StaysAt.map (f : α → β) (look : α → Option (Part α)) (view : β → Option (Part β))
    (part : Part α) (stays : part.StaysAt look)
    (through : ∀ a, view (f a) = (look a).map fun part => part.map f) :
    (part.map f).StaysAt view := by
  cases part with
  | optionalType d put => exact ⟨fun d => by simp [through, stays.1 d, Part.map],
      by simp [through, stays.2]⟩
  | types ds put => exact fun ds nonempty => by simp [through, stays ds nonempty, Part.map]
  | type | declaration | declarations | signature | signatures | parameter | parameters =>
    exact fun value => by simp [through, stays value, Part.map]

end Part

theorem Part.mem_listed {α : Type} (name : String) (entry : String × Part α)
    (part : Option (Part α)) :
    entry ∈ Part.listed name part ↔ entry.1 = name ∧ part = some entry.2 := by
  cases part with
  | none => simp [listed]
  | some p => simpa [listed, Prod.ext_iff] using fun _ => eq_comm

theorem Part.get?_listed {α : Type} (name key : String) (part : Option (Part α)) :
    Assoc.get? name (Part.listed key part) = if key = name then part else none := by
  cases part <;> simp [listed, Assoc.get?_cons]

theorem Descriptor.staysAt (d : Descriptor) (name : String) (part : Part Descriptor)
    (h : (name, part) ∈ d.parts) : part.StaysAt fun d => Assoc.get? name d.parts := by
  unfold Descriptor.parts at h
  split at h <;> simp only [List.mem_cons, List.not_mem_nil, or_false, Prod.mk.injEq] at h
  case h_2 =>
    rcases h with ⟨rfl, rfl⟩ | ⟨rfl, rfl⟩ | ⟨rfl, rfl⟩ | ⟨rfl, rfl⟩ <;>
      simp [Part.StaysAt, Descriptor.parts, Assoc.get?_cons]
  case h_3 =>
    rcases h with ⟨rfl, rfl⟩ | ⟨rfl, rfl⟩ <;>
      simp [Part.StaysAt, Descriptor.parts, Assoc.get?_cons]
  case h_4 | h_10 =>
    obtain ⟨rfl, rfl⟩ := h
    intro ds nonempty
    obtain ⟨first, rest, rfl⟩ := List.exists_cons_of_ne_nil nonempty
    simp [Descriptor.parts]
  all_goals
    obtain ⟨rfl, rfl⟩ := h
    simp [Part.StaysAt, Descriptor.parts]

theorem Parameter.staysAt (p : Parameter) (name : String) (part : Part Parameter)
    (h : (name, part) ∈ p.parts) : part.StaysAt fun p => Assoc.get? name p.parts := by
  rw [Parameter.parts, Part.mem_listed, Option.map_eq_some_iff] at h
  obtain ⟨rfl, d, -, rfl⟩ := h
  simp [Part.StaysAt, Parameter.parts, Part.get?_listed]

theorem Signature.staysAt (s : Signature) (name : String) (part : Part Signature)
    (h : (name, part) ∈ s.parts) : part.StaysAt fun s => Assoc.get? name s.parts := by
  simp only [Signature.parts, List.mem_append, Part.mem_listed, Option.map_eq_some_iff] at h
  rcases h with ⟨rfl, ps, -, rfl⟩ | ⟨rfl, d, -, rfl⟩ <;>
    simp [Part.StaysAt, Signature.parts, Part.get?_listed, Assoc.get?_append]

theorem Declaration.staysAt (d : Declaration) (name : String) (part : Part Declaration)
    (h : (name, part) ∈ d.parts) : part.StaysAt fun d => Assoc.get? name d.parts := by
  simp only [Declaration.parts, List.mem_append, Part.mem_listed, Option.map_eq_some_iff] at h
  rcases h with (((⟨rfl, ds, -, rfl⟩ | ⟨rfl, ss, -, rfl⟩) | ⟨rfl, s, -, rfl⟩) | ⟨rfl, s, -, rfl⟩) |
    ⟨rfl, t, -, rfl⟩
  · simp [Part.StaysAt, Declaration.parts, Part.get?_listed, Assoc.get?_append]
  · simp [Part.StaysAt, Declaration.parts, Part.get?_listed, Assoc.get?_append]
  · cases s <;>
      simp [Part.accessor, Part.StaysAt, Declaration.parts, Part.get?_listed, Assoc.get?_append]
  · cases s <;>
      simp [Part.accessor, Part.StaysAt, Declaration.parts, Part.get?_listed, Assoc.get?_append]
  · simp [Part.StaysAt, Declaration.parts, Part.get?_listed, Assoc.get?_append]

namespace Part

variable {α : Type}

/-- A step leads to a part that stays where it is, if the step is made from such a part. -/
theorem StaysAt.step (view : α → Option (Part α)) (part next : Part α) (step : Json.Step)
    (stays : part.StaysAt view) (h : part.step? step = some next) :
    next.StaysAt fun a => (view a).bind (step? step) := by
  cases step with
  | key name =>
    cases part with
    | type d put =>
      obtain ⟨inner, found, rfl⟩ := Option.map_eq_some_iff.mp h
      refine (d.staysAt name inner (Assoc.mem_of_get? _ _ _ found)).map put _ _ _ fun d => ?_
      simp [stays d, step?]
    | optionalType d put =>
      obtain ⟨inner, found, rfl⟩ := Option.map_eq_some_iff.mp h
      refine (d.staysAt name inner (Assoc.mem_of_get? _ _ _ found)).map _ _ _ _ fun d => ?_
      simp [stays.1 d, step?]
    | declaration d put =>
      obtain ⟨inner, found, rfl⟩ := Option.map_eq_some_iff.mp h
      refine (d.staysAt name inner (Assoc.mem_of_get? _ _ _ found)).map put _ _ _ fun d => ?_
      simp [stays d, step?]
    | signature s put =>
      obtain ⟨inner, found, rfl⟩ := Option.map_eq_some_iff.mp h
      refine (s.staysAt name inner (Assoc.mem_of_get? _ _ _ found)).map put _ _ _ fun s => ?_
      simp [stays s, step?]
    | parameter p put =>
      obtain ⟨inner, found, rfl⟩ := Option.map_eq_some_iff.mp h
      refine (p.staysAt name inner (Assoc.mem_of_get? _ _ _ found)).map put _ _ _ fun p => ?_
      simp [stays p, step?]
    | types | declarations | signatures | parameters => cases h
  | item i =>
    cases part with
    | types ds put =>
      obtain ⟨d, found, rfl⟩ := Option.map_eq_some_iff.mp h
      obtain ⟨bound, -⟩ := List.getElem?_eq_some_iff.mp found
      have nonempty : ∀ d, ds.set i d ≠ [] := fun d empty => by
        simp [← List.length_eq_zero_iff] at empty
        omega
      exact fun d => by simp [stays _ (nonempty d), step?, bound]
    | declarations ds put | signatures ds put | parameters ds put =>
      obtain ⟨d, found, rfl⟩ := Option.map_eq_some_iff.mp h
      obtain ⟨bound, -⟩ := List.getElem?_eq_some_iff.mp found
      exact fun d => by simp [stays (ds.set i d), step?, bound]
    | type | optionalType | declaration | signature | parameter => cases h

/-- After `new` has been read in a slot, the path leads to that slot again. -/
theorem slot?_fill (path : Json.Path) (view : α → Option (Part α)) (part : Part α) (p : Slot α)
    (stays : part.StaysAt view) (h : part.slot? path = some p) (new : Json) :
    (view (p.fill new)).bind (slot? path) = p.after new := by
  induction path generalizing view part with
  | nil =>
    cases part with
    | type d put =>
      cases h
      simp [stays (Descriptor.ofJson new), slot?, here?, Slot.after]
    | optionalType d put =>
      cases h
      cases new <;>
        simp [stays.1, stays.2, slot?, here?, Slot.after, Descriptor.ofOptional]
    | types | declaration | declarations | signature | signatures | parameter | parameters =>
      cases h
  | cons step rest ih =>
    obtain ⟨next, moved, inside⟩ := Option.bind_eq_some_iff.mp h
    rw [← ih _ next (stays.step view part next step moved) inside, Option.bind_assoc]
    rfl

end Part

/-- Nothing but the descriptor changes in the slot that a value is read in. -/
theorem Declaration.slot?_fill (d : Declaration) (path : Json.Path) (p : Slot Declaration)
    (h : d.slot? path = some p) (new : Json) : (p.fill new).slot? path = p.after new :=
  Part.slot?_fill path (fun d => some (.declaration d fun d => d)) (.declaration d fun d => d) p
    (fun _ => rfl) h new

end TsWorkshop
