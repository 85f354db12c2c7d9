import TsWorkshop.Proofs.Reflection.Slots

/-!
A field that may hold descriptors, read with another value. Each record has its fields under their
names (`Locates`): it is read from an object with another value in such a field, if that value is
read there, and nothing else in it changes.
-/

namespace TsWorkshop

open Fields

/-! ### Reading a record with another value of a field -/

section Put

variable {α : Type} (name other : String) (read : Json → Option α) (w : Json)
  (members : Assoc Json)

theorem readRequired_put : readRequired other read (Assoc.put name w members) =
    if name = other then read w else readRequired other read members := by
  by_cases h : name = other <;> simp [readRequired, Assoc.get?_put, h]

/-- A value that may be `null`, which stands for nothing. -/
def readOptional (read : Json → Option α) : Json → Option (Option α)
  | .null => some none
  | v => (read v).map some

theorem readOptional_of_eq_some (a : α) (refused : read .null = none) (h : read w = some a) :
    readOptional read w = some (some a) := by
  cases w <;> simp_all [readOptional]

theorem readNullable_put : readNullable other read (Assoc.put name w members) =
    if name = other then readOptional read w else readNullable other read members := by
  by_cases h : name = other
  · subst h
    cases w <;> simp [readNullable, nullable, readRequired, Assoc.get?_put, readOptional]
  · simp [readNullable, nullable, readRequired, Assoc.get?_put, h]

theorem readNullable_eq_some_some (a : α) (h : readNullable name read members = some (some a)) :
    ∃ v, Assoc.get? name members = some v ∧ read v = some a := by
  rcases (readNullable_eq_some_iff _ _ _ _).mp h with ⟨absent, -⟩ | ⟨v, b, found, -, hread, same⟩
  · cases absent
  · cases same
    exact ⟨v, found, hread⟩

theorem readDefaulted_put (default : α) :
    readDefaulted other default read (Assoc.put name w members) =
      if name = other then read w else readDefaulted other default read members := by
  by_cases h : name = other
  · subst h
    simp [readDefaulted, defaulted, readRequired, Assoc.get?_put]
  · simp [readDefaulted, defaulted, readRequired, Assoc.get?_put, h]

theorem distinct_put (known : List String) (there : name ∈ Assoc.keys members) :
    distinct known (Assoc.put name w members) = distinct known members := by
  simp [distinct, Assoc.count_eq_count_keys, Assoc.keys_put name w members there]

theorem others_put (known : List String) (field : name ∈ known) :
    others known (Assoc.put name w members) = others known members := by
  have dropped : (Assoc.put name w members).filter (fun member => !known.contains member.1) =
      members.filter fun member => !known.contains member.1 := by
    induction members with
    | nil => simp [Assoc.put, field]
    | cons member rest ih =>
      obtain ⟨key, old⟩ := member
      by_cases same : key = name
      · simp [Assoc.put, same, field]
      · rw [Assoc.put, if_neg same, List.filter_cons, List.filter_cons, ih]
  rw [others_eq, others_eq, dropped]

theorem classify_put (field : name ≠ "type") :
    Tag.classify (.obj (Assoc.put name w members)) = Tag.classify (.obj members) := by
  simp [Tag.classify, Tag.textIn?, Json.field?, Assoc.get?_put, field]

end Put

/-! ### The value of a field -/

namespace Part

variable {α β : Type}

/-- The value of the field was read from `v`. -/
def Reads : Part α → Json → Prop
  | type d _, v => Descriptor.ofJson v = d
  | optionalType d _, v => Descriptor.ofJson v = d
  | types ds _, v => readList Descriptor.ofJson? v = some ds
  | declaration d _, v => Declaration.ofJson? v = some d
  | declarations ds _, v => readList Declaration.ofJson? v = some ds
  | signature s _, v => Signature.ofJson? v = some s
  | signatures ss _, v => readList Signature.ofJson? v = some ss
  | parameter p _, v => Parameter.ofJson? v = some p
  | parameters ps _, v => readList Parameter.ofJson? v = some ps

/-- `α` as it is when the field is read from `w`. -/
def put? : Part α → Json → Option α
  | type _ put, w => some (put (Descriptor.ofJson w))
  | optionalType _ put, w => some (put (Descriptor.ofOptional w))
  | types _ put, w => (readList Descriptor.ofJson? w).map put
  | declaration _ put, w => (Declaration.ofJson? w).map put
  | declarations _ put, w => (readList Declaration.ofJson? w).map put
  | signature _ put, w => (Signature.ofJson? w).map put
  | signatures _ put, w => (readList Signature.ofJson? w).map put
  | parameter _ put, w => (Parameter.ofJson? w).map put
  | parameters _ put, w => (readList Parameter.ofJson? w).map put

theorem reads_map (f : α → β) (part : Part α) (v : Json) (h : part.Reads v) :
    (part.map f).Reads v := by
  cases part <;> exact h

theorem put?_map (f : α → β) (part : Part α) (w : Json) :
    (part.map f).put? w = (part.put? w).map f := by
  cases part <;> simp [map, put?]

end Part

/-- The fields of what `read` reads stand under their names, and another value there is read with
the record. -/
def Locates {α : Type} (read : Json → Option α) (parts : α → Assoc (Part α)) : Prop :=
  ∀ v a name part, read v = some a → (name, part) ∈ parts a →
    ∃ members old, v = .obj members ∧ Assoc.get? name members = some old ∧ part.Reads old ∧
      ∀ w b, part.put? w = some b → read (.obj (Assoc.put name w members)) = some b

theorem mem_keys_of_get? (name : String) (members : Assoc Json) (v : Json)
    (h : Assoc.get? name members = some v) : name ∈ Assoc.keys members :=
  Assoc.mem_keys_of_mem _ _ _ (Assoc.mem_of_get? name members v h)

/-- An optional descriptor is read from whatever stands in its place. -/
theorem readOptional_descriptor (w : Json) :
    readOptional Descriptor.ofJson? w = some (Descriptor.ofOptional w) := by
  cases w <;> rfl

theorem locates_parameter : Locates Parameter.ofJson? Parameter.parts := by
  intro v p name part h listed
  cases v with
  | obj members =>
    have r := (Parameter.ofJson?_obj_iff members p).mp h
    rw [Parameter.parts, Part.mem_listed, Option.map_eq_some_iff] at listed
    obtain ⟨rfl, d, hd, rfl⟩ := listed
    obtain ⟨old, found, hread⟩ := readNullable_eq_some_some _ _ _ _ (hd ▸ r.type)
    refine ⟨members, old, rfl, found, Option.some.inj hread, fun w b hb => ?_⟩
    cases hb
    refine (Parameter.ofJson?_obj_iff _ _).mpr ?_
    have there := mem_keys_of_get? _ _ _ found
    constructor <;>
      simp [distinct_put _ _ _ _ there, readNullable_put, readRequired_put, r.once, r.id, r.name,
        r.defaultValue, r.comment, r.extra, readOptional_descriptor,
        others_put "type" w members Parameter.fieldNames (by decide)]
  | null | bool | num | str | arr => cases h

theorem locates_signature : Locates Signature.ofJson? Signature.parts := by
  intro v s name part h listed
  cases v with
  | obj members =>
    have r := (Signature.ofJson?_obj_iff members s).mp h
    simp only [Signature.parts, List.mem_append, Part.mem_listed, Option.map_eq_some_iff] at listed
    rcases listed with ⟨rfl, ps, hps, rfl⟩ | ⟨rfl, d, hd, rfl⟩
    · obtain ⟨old, found, hread⟩ := readNullable_eq_some_some _ _ _ _ (hps ▸ r.parameters)
      refine ⟨members, old, rfl, found, hread, fun w b hb => ?_⟩
      obtain ⟨ps', hw, rfl⟩ := Option.map_eq_some_iff.mp hb
      refine (Signature.ofJson?_obj_iff _ _).mpr ?_
      have there := mem_keys_of_get? _ _ _ found
      constructor <;>
        simp [distinct_put _ _ _ _ there, readNullable_put, readRequired_put, r.once, r.id, r.name,
          r.kind, r.kindString, r.comment, r.type, r.extra, readOptional_of_eq_some _ _ _ rfl hw,
          others_put "parameters" w members Signature.fieldNames (by decide)]
    · obtain ⟨old, found, hread⟩ := readNullable_eq_some_some _ _ _ _ (hd ▸ r.type)
      refine ⟨members, old, rfl, found, Option.some.inj hread, fun w b hb => ?_⟩
      cases hb
      refine (Signature.ofJson?_obj_iff _ _).mpr ?_
      have there := mem_keys_of_get? _ _ _ found
      constructor <;>
        simp [distinct_put _ _ _ _ there, readNullable_put, readRequired_put, r.once, r.id, r.name,
          r.kind, r.kindString, r.comment, r.parameters, r.extra, readOptional_descriptor,
          others_put "type" w members Signature.fieldNames (by decide)]
  | null | bool | num | str | arr => cases h

theorem Part.reads_accessor {α : Type} (s : OneOrMany Signature) (put : OneOrMany Signature → α)
    (v : Json) (h : Signature.oneOrManyOfJson? v = some s) : (Part.accessor s put).Reads v := by
  cases v with
  | arr items =>
    obtain ⟨ss, hread, rfl⟩ := Option.map_eq_some_iff.mp h
    exact hread
  | obj members =>
    obtain ⟨s, hread, rfl⟩ := Option.map_eq_some_iff.mp h
    exact hread
  | null | bool | num | str => cases h

/-- The signatures of an accessor can be replaced by what is read in the same spelling. -/
theorem Part.put?_accessor {α : Type} (s : OneOrMany Signature) (put : OneOrMany Signature → α)
    (w : Json) (b : α) (h : (Part.accessor s put).put? w = some b) :
    ∃ s', Signature.oneOrManyOfJson? w = some s' ∧ put s' = b := by
  cases s with
  | one s =>
    obtain ⟨s', hread, rfl⟩ := Option.map_eq_some_iff.mp h
    refine ⟨.one s', ?_, rfl⟩
    cases w with
    | obj members => exact Option.map_eq_some_iff.mpr ⟨s', hread, rfl⟩
    | null | bool | num | str | arr => cases hread
  | many ss =>
    obtain ⟨ss', hread, rfl⟩ := Option.map_eq_some_iff.mp h
    refine ⟨.many ss', ?_, rfl⟩
    cases w with
    | arr items => exact Option.map_eq_some_iff.mpr ⟨ss', hread, rfl⟩
    | null | bool | num | str | obj => cases hread

/-- The fields of a declaration that hold other reflections. -/
inductive NestedField where
  | children | signatures | getSignature | setSignature | type

namespace NestedField

abbrev Value : NestedField → Type
  | children => List Declaration
  | signatures => List Signature
  | getSignature | setSignature => OneOrMany Signature
  | type => Descriptor

def key : NestedField → String
  | children => "children"
  | signatures => "signatures"
  | getSignature => "getSignature"
  | setSignature => "setSignature"
  | type => "type"

def read : (field : NestedField) → Json → Option field.Value
  | children => readList Declaration.ofJson?
  | signatures => readList Signature.ofJson?
  | getSignature | setSignature => Signature.oneOrManyOfJson?
  | type => Descriptor.ofJson?

def get : (field : NestedField) → Declaration → Option field.Value
  | children, d => d.children
  | signatures, d => d.signatures
  | getSignature, d => d.getSignature
  | setSignature, d => d.setSignature
  | type, d => d.type

def set : (field : NestedField) → Option field.Value → Declaration → Declaration
  | children, value, d => { d with children := value }
  | signatures, value, d => { d with signatures := value }
  | getSignature, value, d => { d with getSignature := value }
  | setSignature, value, d => { d with setSignature := value }
  | type, value, d => { d with type := value }

variable (field : NestedField) (members : Assoc Json) (d : Declaration)

theorem key_mem : field.key ∈ Declaration.fieldNames := by
  cases field <;> decide

theorem readNullable_of_readFrom (r : d.ReadFrom members) :
    readNullable field.key field.read members = some (field.get d) := by
  cases field with
  | children => exact r.children
  | signatures => exact r.signatures
  | getSignature => exact r.getSignature
  | setSignature => exact r.setSignature
  | type => exact r.type

/-- A field that is not empty was read from the value under its key. -/
theorem exists_of_get (r : d.ReadFrom members) (value : field.Value)
    (there : field.get d = some value) :
    ∃ old, Assoc.get? field.key members = some old ∧ field.read old = some value :=
  readNullable_eq_some_some _ _ _ _ (there ▸ field.readNullable_of_readFrom members d r)

/-- With another value under its key a field is read anew, and nothing else changes. -/
theorem readFrom_put (r : d.ReadFrom members) (there : field.key ∈ Assoc.keys members) (w : Json)
    (value : Option field.Value) (hw : readOptional field.read w = some value) :
    (field.set value d).ReadFrom (Assoc.put field.key w members) := by
  have once := (distinct_put field.key w members Declaration.fieldNames there).trans r.once
  have extra := others_put field.key w members Declaration.fieldNames field.key_mem
  have anew : readNullable field.key field.read (Assoc.put field.key w members) = some value := by
    rw [readNullable_put, if_pos rfl, hw]
  cases field <;> constructor <;>
    first
    | exact once
    | exact anew
    | exact r.extra.trans extra.symm
    | simp [set, key, readNullable_put, readRequired_put, r.id, r.name, r.kind, r.kindString,
        r.comment, r.children, r.signatures, r.getSignature, r.setSignature, r.type,
        r.typeParameter, r.typeParameters, r.defaultValue]

/-- A field of a declaration stands under its key, and another value there is read with the
declaration. -/
theorem located (r : d.ReadFrom members) (value : field.Value)
    (there : field.get d = some value) (part : Part Declaration)
    (reads : ∀ v, field.read v = some value → part.Reads v)
    (puts : ∀ w b, part.put? w = some b →
      ∃ new, readOptional field.read w = some new ∧ field.set new d = b) :
    ∃ members' old, Json.obj members = .obj members' ∧
      Assoc.get? field.key members' = some old ∧ part.Reads old ∧
      ∀ w b, part.put? w = some b →
        Declaration.ofJson? (.obj (Assoc.put field.key w members')) = some b := by
  obtain ⟨old, found, was⟩ := field.exists_of_get members d r value there
  refine ⟨members, old, rfl, found, reads old was, fun w b hb => ?_⟩
  obtain ⟨new, hw, rfl⟩ := puts w b hb
  rw [Declaration.ofJson?_obj_iff]
  exact field.readFrom_put members d r (mem_keys_of_get? _ _ _ found) w new hw

/-- A field whose values are not read from `null` stands under its key with the value read there. -/
theorem located_of_read (r : d.ReadFrom members) (value : field.Value)
    (there : field.get d = some value) (refused : field.read .null = none) (part : Part Declaration)
    (reads : ∀ v, field.read v = some value → part.Reads v)
    (puts : ∀ w b, part.put? w = some b →
      ∃ new, field.read w = some new ∧ field.set (some new) d = b) :
    ∃ members' old, Json.obj members = .obj members' ∧
      Assoc.get? field.key members' = some old ∧ part.Reads old ∧
      ∀ w b, part.put? w = some b →
        Declaration.ofJson? (.obj (Assoc.put field.key w members')) = some b := by
  refine field.located members d r value there part reads fun w b hb => ?_
  obtain ⟨new, hw, again⟩ := puts w b hb
  exact ⟨some new, readOptional_of_eq_some _ _ _ refused hw, again⟩

end NestedField

theorem locates_declaration : Locates Declaration.ofJson? Declaration.parts := by
  intro v d name part h listed
  cases v with
  | obj members =>
    have r := (Declaration.ofJson?_obj_iff members d).mp h
    simp only [Declaration.parts, List.mem_append, Part.mem_listed,
      Option.map_eq_some_iff] at listed
    rcases listed with (((⟨rfl, ds, hds, rfl⟩ | ⟨rfl, ss, hss, rfl⟩) | ⟨rfl, s, hs, rfl⟩) |
      ⟨rfl, s, hs, rfl⟩) | ⟨rfl, t, ht, rfl⟩
    · exact NestedField.children.located_of_read members d r ds hds rfl _ (fun _ read => read)
        fun _ _ => Option.map_eq_some_iff.mp
    · exact NestedField.signatures.located_of_read members d r ss hss rfl _ (fun _ read => read)
        fun _ _ => Option.map_eq_some_iff.mp
    · exact NestedField.getSignature.located_of_read members d r s hs rfl _
        (Part.reads_accessor s _) (Part.put?_accessor s _)
    · exact NestedField.setSignature.located_of_read members d r s hs rfl _
        (Part.reads_accessor s _) (Part.put?_accessor s _)
    · refine NestedField.type.located members d r t ht _ (fun _ read => Option.some.inj read)
        fun w b hb => ?_
      exact ⟨_, readOptional_descriptor w, Option.some.inj hb⟩
  | null | bool | num | str | arr => cases h

/-! ### Descriptors -/

/-- A field of a payload stands under its name, and another value there is read with the payload. -/
def PayloadLocates (tag : Tag) (members : Assoc Json) (name : String) (part : Part Descriptor) :
    Prop :=
  name ∈ Descriptor.fieldNames tag ∧
  ∃ old, Assoc.get? name members = some old ∧ part.Reads old ∧
    ∀ w b, part.put? w = some b → Descriptor.payload? tag (Assoc.put name w members) = some b

section Payload

variable (tag : Tag) (members : Assoc Json) (name : String)
  (field : name ∈ Descriptor.fieldNames tag)

include field

theorem othersOf_put (w : Json) : Descriptor.othersOf tag (Assoc.put name w members) =
    Descriptor.othersOf tag members :=
  others_put name w members _ (List.mem_cons_of_mem _ field)

theorem PayloadLocates.type (d : Descriptor) (put : Descriptor → Descriptor)
    (h : readRequired name Descriptor.ofJson? members = some d)
    (again : ∀ w, Descriptor.payload? tag (Assoc.put name w members) =
      some (put (Descriptor.ofJson w))) :
    PayloadLocates tag members name (.type d put) := by
  obtain ⟨old, found, hread⟩ := (readRequired_eq_some_iff _ _ _ _).mp h
  refine ⟨field, old, found, Option.some.inj hread, fun w b hb => ?_⟩
  rw [again w]
  exact hb

theorem PayloadLocates.optionalType (d : Descriptor) (put : Option Descriptor → Descriptor)
    (h : readNullable name Descriptor.ofJson? members = some (some d))
    (again : ∀ w, Descriptor.payload? tag (Assoc.put name w members) =
      some (put (Descriptor.ofOptional w))) :
    PayloadLocates tag members name (.optionalType d put) := by
  obtain ⟨old, found, hread⟩ := readNullable_eq_some_some _ _ _ _ h
  refine ⟨field, old, found, Option.some.inj hread, fun w b hb => ?_⟩
  rw [again w]
  exact hb

theorem PayloadLocates.types (ds : List Descriptor) (put : List Descriptor → Descriptor)
    (h : readRequired name (readList Descriptor.ofJson?) members = some ds)
    (again : ∀ w ds, readList Descriptor.ofJson? w = some ds →
      Descriptor.payload? tag (Assoc.put name w members) = some (put ds)) :
    PayloadLocates tag members name (.types ds put) := by
  obtain ⟨old, found, hread⟩ := (readRequired_eq_some_iff _ _ _ _).mp h
  refine ⟨field, old, found, hread, fun w b hb => ?_⟩
  obtain ⟨ds', hw, rfl⟩ := Option.map_eq_some_iff.mp hb
  exact again w ds' hw

end Payload

theorem readRequired_of_nullable {α : Type} (name : String) (read : Json → Option α)
    (members : Assoc Json) (a : α) (h : readNullable name read members = some (some a)) :
    readRequired name read members = some a := by
  obtain ⟨v, found, hread⟩ := readNullable_eq_some_some _ _ _ _ h
  exact (readRequired_eq_some_iff _ _ _ _).mpr ⟨v, found, hread⟩

theorem payloadLocates (tag : Tag) (members : Assoc Json) (d : Descriptor)
    (h : Descriptor.payload? tag members = some d) (name : String) (part : Part Descriptor)
    (listed : (name, part) ∈ d.parts) : PayloadLocates tag members name part := by
  cases tag <;>
    simp only [Descriptor.payload?, Option.bind_eq_bind, Option.bind_eq_some_iff, Option.pure_def,
      Option.some.injEq] at h
  case array =>
    obtain ⟨element, helement, rfl⟩ := h
    simp only [Descriptor.parts, List.mem_singleton, Prod.mk.injEq] at listed
    obtain ⟨rfl, rfl⟩ := listed
    have field : "elementType" ∈ Descriptor.fieldNames .array := by decide
    refine .type _ _ _ field _ _ helement fun w => ?_
    simp [Descriptor.payload?, readRequired_put, Descriptor.ofJson?, othersOf_put _ _ _ field]
  case conditional =>
    obtain ⟨check, hcheck, base, hbase, whenTrue, htrue, whenFalse, hfalse, rfl⟩ := h
    have again : ∀ name (field : name ∈ Descriptor.fieldNames .conditional) w,
        Descriptor.payload? .conditional (Assoc.put name w members) =
          some (.conditional (if name = "checkType" then .ofJson w else check)
            (if name = "extendsType" then .ofJson w else base)
            (if name = "trueType" then .ofJson w else whenTrue)
            (if name = "falseType" then .ofJson w else whenFalse)
            (Descriptor.othersOf .conditional members)) := by
      intro name field w
      simp only [Descriptor.payload?, readRequired_put, othersOf_put _ _ _ field, hcheck, hbase,
        htrue, hfalse]
      split_ifs <;> simp [Descriptor.ofJson?]
    simp only [Descriptor.parts, List.mem_cons, List.not_mem_nil, or_false, Prod.mk.injEq] at listed
    rcases listed with ⟨rfl, rfl⟩ | ⟨rfl, rfl⟩ | ⟨rfl, rfl⟩ | ⟨rfl, rfl⟩
    · have field : "checkType" ∈ Descriptor.fieldNames .conditional := by decide
      exact .type _ _ _ field _ _ hcheck fun w => by simp [again _ field]
    · have field : "extendsType" ∈ Descriptor.fieldNames .conditional := by decide
      exact .type _ _ _ field _ _ hbase fun w => by simp [again _ field]
    · have field : "trueType" ∈ Descriptor.fieldNames .conditional := by decide
      exact .type _ _ _ field _ _ htrue fun w => by simp [again _ field]
    · have field : "falseType" ∈ Descriptor.fieldNames .conditional := by decide
      exact .type _ _ _ field _ _ hfalse fun w => by simp [again _ field]
  case indexedAccess =>
    obtain ⟨object, hobject, index, hindex, rfl⟩ := h
    simp only [Descriptor.parts, List.mem_cons, List.not_mem_nil, or_false, Prod.mk.injEq] at listed
    rcases listed with ⟨rfl, rfl⟩ | ⟨rfl, rfl⟩
    · have field : "objectType" ∈ Descriptor.fieldNames .indexedAccess := by decide
      refine .type _ _ _ field _ _ hobject fun w => ?_
      simp [Descriptor.payload?, readRequired_put, Descriptor.ofJson?, othersOf_put _ _ _ field,
        hindex]
    · have field : "indexType" ∈ Descriptor.fieldNames .indexedAccess := by decide
      refine .type _ _ _ field _ _ hindex fun w => ?_
      simp [Descriptor.payload?, readRequired_put, Descriptor.ofJson?, othersOf_put _ _ _ field,
        hobject]
  case inferred | intrinsic | unknown | literal =>
    obtain ⟨name, -, rfl⟩ := h
    cases listed
  case intersection | union =>
    obtain ⟨types, htypes, rfl⟩ := h
    cases types with
    | nil => cases listed
    | cons first rest =>
      simp only [Descriptor.parts, List.mem_singleton, Prod.mk.injEq] at listed
      obtain ⟨rfl, rfl⟩ := listed
      rcases (readDefaulted_eq_some_iff _ _ _ _ _).mp htypes with ⟨-, empty⟩ | hread
      · cases empty
      · have required := (readRequired_eq_some_iff _ _ _ _).mpr hread
        refine .types _ _ _ (by decide) _ _ required fun w ds hw => ?_
        simp only [Descriptor.payload?, readDefaulted_put, hw]
        simpa using othersOf_put _ members "types" (by decide) w
  case predicate =>
    obtain ⟨text, hname, asserts, hasserts, target, htarget, rfl⟩ := h
    cases target with
    | none => cases listed
    | some target =>
      simp only [Descriptor.parts, List.mem_singleton, Prod.mk.injEq] at listed
      obtain ⟨rfl, rfl⟩ := listed
      have field : "targetType" ∈ Descriptor.fieldNames .predicate := by decide
      refine .optionalType _ _ _ field _ _ htarget fun w => ?_
      simp [Descriptor.payload?, readRequired_put, readDefaulted_put, readNullable_put,
        readOptional_descriptor, othersOf_put _ _ _ field, hname, hasserts]
  case reference =>
    obtain ⟨text, hname, id, hid, arguments, harguments, qualified, hqualified, package, hpackage,
      rfl⟩ := h
    cases arguments with
    | none => cases listed
    | some arguments =>
      simp only [Descriptor.parts, List.mem_singleton, Prod.mk.injEq] at listed
      obtain ⟨rfl, rfl⟩ := listed
      have field : "typeArguments" ∈ Descriptor.fieldNames .reference := by decide
      have required := readRequired_of_nullable _ _ _ _ harguments
      refine .types _ _ _ field _ _ required fun w ds hw => ?_
      simp [Descriptor.payload?, readRequired_put, readNullable_put,
        readOptional_of_eq_some _ _ _ rfl hw, othersOf_put _ _ _ field, hname, hid, hqualified,
        hpackage]
  case reflection =>
    obtain ⟨declaration, hdeclaration, rfl⟩ := h
    cases declaration with
    | none => cases listed
    | some declaration =>
      simp only [Descriptor.parts, List.mem_singleton, Prod.mk.injEq] at listed
      obtain ⟨rfl, rfl⟩ := listed
      have field : "declaration" ∈ Descriptor.fieldNames .reflection := by decide
      obtain ⟨old, found, hread⟩ := readNullable_eq_some_some _ _ _ _ hdeclaration
      refine ⟨field, old, found, hread, fun w b hb => ?_⟩
      obtain ⟨d, hw, rfl⟩ := Option.map_eq_some_iff.mp hb
      simp [Descriptor.payload?, readNullable_put, readOptional_of_eq_some _ _ _ rfl hw,
        othersOf_put _ _ _ field]
  case tuple =>
    obtain ⟨elements, helements, rfl⟩ := h
    cases elements with
    | none => cases listed
    | some elements =>
      simp only [Descriptor.parts, List.mem_singleton, Prod.mk.injEq] at listed
      obtain ⟨rfl, rfl⟩ := listed
      have field : "elements" ∈ Descriptor.fieldNames .tuple := by decide
      have required := readRequired_of_nullable _ _ _ _ helements
      refine .types _ _ _ field _ _ required fun w ds hw => ?_
      simp [Descriptor.payload?, readNullable_put, readOptional_of_eq_some _ _ _ rfl hw,
        othersOf_put _ _ _ field]
  case typeOperator =>
    obtain ⟨operator, hoperator, target, htarget, rfl⟩ := h
    simp only [Descriptor.parts, List.mem_singleton, Prod.mk.injEq] at listed
    obtain ⟨rfl, rfl⟩ := listed
    have field : "target" ∈ Descriptor.fieldNames .typeOperator := by decide
    refine .type _ _ _ field _ _ htarget fun w => ?_
    simp [Descriptor.payload?, readRequired_put, Descriptor.ofJson?, othersOf_put _ _ _ field,
      hoperator]

theorem locates_descriptor : Locates Descriptor.ofJson? Descriptor.parts := by
  intro v d name part h listed
  obtain rfl := Option.some.inj h
  cases v with
  | obj members =>
    rw [Descriptor.ofJson_obj] at listed
    cases fits : (Tag.classify (.obj members)).bind fun tag =>
        if distinct (Descriptor.fieldNames tag) members then Descriptor.payload? tag members
        else none with
    | none =>
      rw [fits] at listed
      cases listed
    | some d =>
      rw [fits] at listed
      obtain ⟨tag, tagged, fits⟩ := Option.bind_eq_some_iff.mp fits
      rw [Option.ite_none_right_eq_some] at fits
      obtain ⟨once, payload⟩ := fits
      obtain ⟨field, old, found, reads, again⟩ :=
        payloadLocates tag members d payload name part listed
      refine ⟨members, old, rfl, found, reads, fun w b hb => ?_⟩
      have untagged : name ≠ "type" := by
        rintro rfl
        cases tag <;> simp [Descriptor.fieldNames] at field
      have there := mem_keys_of_get? _ _ _ found
      simp [Descriptor.ofJson?, Descriptor.ofJson_obj, classify_put _ _ _ untagged, tagged,
        distinct_put _ _ _ _ there, once, again w b hb]
  | null | bool | num | str | arr => cases listed

end TsWorkshop
