import TsWorkshop.Proofs.Reflection.Payload

/-!
The tag of a type, in five places: the text under `type` in a value, the known tag that the value is
classified by, the tests for single tags, the descriptor that is read from the value, and what is
written for the descriptor. They agree on every value (`Descriptor.tags_agree`). A value with a
known tag is recognized if its payload is one of that tag; `Tag.Payload` says so field by field.
-/

namespace TsWorkshop

open Fields

/-- An object with this text under `type`. -/
def Json.Tagged (v : Json) (text : String) : Prop :=
  ∃ members, v = .obj members ∧ Assoc.get? "type" members = some (.str text)

theorem Json.Tagged.unique {v : Json} {a b : String} (here : v.Tagged a) (there : v.Tagged b) :
    a = b := by
  obtain ⟨members, rfl, first⟩ := here
  obtain ⟨_, ⟨⟩, second⟩ := there
  exact Json.str.inj (Option.some.inj (first.symm.trans second))

/-! ### Payloads -/

/-- What stands in a field of a payload. -/
inductive PayloadValue where
  | text | flag | identifier | type | types | declaration | literal

/-- Whether a field of a payload may be missing, and then also be `null`. -/
inductive Presence where
  | required | defaulted | nullable

structure PayloadField where
  name : String
  presence : Presence
  value : PayloadValue

/-- The fields of the payload under a tag. -/
def Tag.payload : Tag → List PayloadField
  | .array => [⟨"elementType", .required, .type⟩]
  | .conditional =>
    [⟨"checkType", .required, .type⟩, ⟨"extendsType", .required, .type⟩,
     ⟨"trueType", .required, .type⟩, ⟨"falseType", .required, .type⟩]
  | .indexedAccess => [⟨"objectType", .required, .type⟩, ⟨"indexType", .required, .type⟩]
  | .inferred | .intrinsic | .unknown => [⟨"name", .defaulted, .text⟩]
  | .intersection | .union => [⟨"types", .defaulted, .types⟩]
  | .predicate =>
    [⟨"name", .required, .text⟩, ⟨"asserts", .defaulted, .flag⟩, ⟨"targetType", .nullable, .type⟩]
  | .reference =>
    [⟨"name", .required, .text⟩, ⟨"id", .nullable, .identifier⟩,
     ⟨"typeArguments", .nullable, .types⟩, ⟨"qualifiedName", .nullable, .text⟩,
     ⟨"package", .nullable, .text⟩]
  | .reflection => [⟨"declaration", .nullable, .declaration⟩]
  | .literal => [⟨"value", .defaulted, .literal⟩]
  | .tuple => [⟨"elements", .nullable, .types⟩]
  | .typeOperator => [⟨"operator", .required, .text⟩, ⟨"target", .required, .type⟩]

/-- The members of an object that spells a big integer. -/
structure SpellsBigint (members : Assoc Json) : Prop where
  once : ∀ name ∈ ["value", "negative"], (Assoc.keys members).count name ≤ 1
  digits : ∃ digits, Assoc.get? "value" members = some (.str digits)
  sign : ∃ negative, Assoc.get? "negative" members = some (.bool negative)

/-- The values that may stand there. A type is never refused, whatever its value. -/
def PayloadValue.Admits : PayloadValue → Json → Prop
  | text, v => ∃ s, v = .str s
  | flag, v => ∃ b, v = .bool b
  | identifier, v => ∃ n, v = .num (.whole n) ∧ Word.signedMin ≤ n ∧ n ≤ Word.signedMax
  | type, _ => True
  | types, v => ∃ items, v = .arr items
  | declaration, v => ∃ d, Declaration.ofJson? v = some d
  | literal, v => (∀ items, v ≠ .arr items) ∧ ∀ members, v = .obj members → SpellsBigint members

/-- The members of an object have in this field what has to be there. -/
def PayloadField.Holds (field : PayloadField) (members : Assoc Json) : Prop :=
  match field.presence with
  | .required => ∃ v, Assoc.get? field.name members = some v ∧ field.value.Admits v
  | .defaulted => ∀ v, Assoc.get? field.name members = some v → field.value.Admits v
  | .nullable => ∀ v, Assoc.get? field.name members = some v → v = .null ∨ field.value.Admits v

/-- The members of an object are a payload of the tag: no field twice, and in each field what has to
be there. -/
structure Tag.Payload (tag : Tag) (members : Assoc Json) : Prop where
  once : ∀ field ∈ tag.payload, (Assoc.keys members).count field.name ≤ 1
  holds : ∀ field ∈ tag.payload, field.Holds members

/-! ### Reading one field -/

/-- Reading succeeds for the admitted values. -/
def PayloadValue.ReadBy {α : Type} (value : PayloadValue) (read : Json → Option α) : Prop :=
  ∀ v, (read v).isSome = true ↔ value.Admits v

section Field

variable {α : Type} (name : String) (value : PayloadValue) (read : Json → Option α)
  (reads : value.ReadBy read) (members : Assoc Json)

include reads

theorem isSome_readRequired : (readRequired name read members).isSome = true ↔
    PayloadField.Holds ⟨name, .required, value⟩ members := by
  unfold readRequired PayloadField.Holds
  cases Assoc.get? name members with
  | none => simp
  | some v => simpa using reads v

theorem isSome_readDefaulted (default : α) :
    (readDefaulted name default read members).isSome = true ↔
      PayloadField.Holds ⟨name, .defaulted, value⟩ members := by
  unfold readDefaulted defaulted readRequired PayloadField.Holds
  cases Assoc.get? name members with
  | none => simp
  | some v => simpa using reads v

theorem isSome_readNullable : (readNullable name read members).isSome = true ↔
    PayloadField.Holds ⟨name, .nullable, value⟩ members := by
  unfold readNullable nullable readRequired PayloadField.Holds
  cases Assoc.get? name members with
  | none => simp
  | some v =>
    by_cases null : v = .null
    · simp [null]
    · simpa [null] using reads v

end Field

theorem readBy_text : PayloadValue.text.ReadBy Json.text? := by
  intro v
  cases v <;> simp [Json.text?, PayloadValue.Admits]

theorem readBy_flag : PayloadValue.flag.ReadBy Json.flag? := by
  intro v
  cases v <;> simp [Json.flag?, PayloadValue.Admits]

theorem readBy_identifier : PayloadValue.identifier.ReadBy int64? := by
  intro v
  rcases v with _ | _ | (n | x) | _ | _ | _ <;> simp [int64?, Json.whole?, PayloadValue.Admits]

theorem readBy_type : PayloadValue.type.ReadBy Descriptor.ofJson? := fun _ =>
  ⟨fun _ => trivial, fun _ => rfl⟩

theorem readBy_types : PayloadValue.types.ReadBy (readList Descriptor.ofJson?) := by
  intro v
  rw [← Descriptor.listOfJson?_eq]
  cases v <;> simp [Descriptor.listOfJson?, PayloadValue.Admits]

theorem readBy_declaration : PayloadValue.declaration.ReadBy Declaration.ofJson? := fun _ =>
  Option.isSome_iff_exists

/-! ### Reading field after field -/

/-- If what comes next succeeds or not whatever was read, both have to succeed. -/
theorem isSome_bind_iff {α β : Type} (x : Option α) (next : α → Option β) (P : Prop)
    (rest : ∀ a, (next a).isSome = true ↔ P) :
    (x.bind next).isSome = true ↔ x.isSome = true ∧ P := by
  cases x with
  | none => simp
  | some a => simp [rest]

/-- A big integer is read exactly if it is spelled by its digits and its sign, each given once. -/
theorem isSome_ofJson?_obj (members : Assoc Json) :
    (Literal.ofJson? (.obj members)).isSome = true ↔ SpellsBigint members := by
  have digits := isSome_readRequired "value" _ _ readBy_text members
  have sign := isSome_readRequired "negative" _ _ readBy_flag members
  have read : (Literal.ofJson? (.obj members)).isSome = true ↔
      distinct ["value", "negative"] members = true ∧
        (readRequired "value" Json.text? members).isSome = true ∧
        (readRequired "negative" Json.flag? members).isSome = true := by
    by_cases once : distinct ["value", "negative"] members = true
    · rw [Literal.ofJson?, if_pos once, and_iff_right once]
      refine isSome_bind_iff _ _ _ fun _ => ?_
      exact (isSome_bind_iff _ _ True fun _ => by simp).trans (and_iff_left trivial)
    · rw [Literal.ofJson?, if_neg once]
      simp [once]
  rw [read, distinct_iff, digits, sign]
  simp only [PayloadField.Holds, PayloadValue.Admits]
  constructor
  · rintro ⟨once, ⟨_, found, text, rfl⟩, _, marked, negative, rfl⟩
    exact ⟨once, ⟨text, found⟩, ⟨negative, marked⟩⟩
  · rintro ⟨once, ⟨text, found⟩, negative, marked⟩
    exact ⟨once, ⟨_, found, text, rfl⟩, _, marked, negative, rfl⟩

theorem readBy_literal : PayloadValue.literal.ReadBy Literal.ofJson? := by
  intro v
  cases v with
  | obj members => simp [isSome_ofJson?_obj, PayloadValue.Admits]
  | null | bool | num | str | arr => simp [Literal.ofJson?, PayloadValue.Admits]

/-- A payload is read exactly if each of its fields holds what has to be there. -/
theorem isSome_payload? (tag : Tag) (members : Assoc Json) :
    (Descriptor.payload? tag members).isSome = true ↔
      ∀ field ∈ tag.payload, field.Holds members := by
  cases tag <;>
    simp only [Descriptor.payload?, Tag.payload, List.forall_mem_cons,
      ← isSome_readRequired _ _ _ readBy_type, ← isSome_readRequired _ _ _ readBy_text,
      ← isSome_readNullable _ _ _ readBy_type, ← isSome_readNullable _ _ _ readBy_text,
      ← isSome_readNullable _ _ _ readBy_types, ← isSome_readNullable _ _ _ readBy_identifier,
      ← isSome_readNullable _ _ _ readBy_declaration,
      ← isSome_readDefaulted _ _ _ readBy_text _ "", ← isSome_readDefaulted _ _ _ readBy_types _ [],
      ← isSome_readDefaulted _ _ _ readBy_flag _ false,
      ← isSome_readDefaulted _ _ _ readBy_literal _ .null]
  -- one step for each field, in the order in which they are read
  all_goals
    repeat
      refine isSome_bind_iff _ _ _ fun _ => ?_
    simp

theorem names_payload (tag : Tag) :
    tag.payload.map PayloadField.name = Descriptor.fieldNames tag := by
  cases tag <;> rfl

theorem payload_iff (tag : Tag) (members : Assoc Json) :
    tag.Payload members ↔ distinct (Descriptor.fieldNames tag) members = true ∧
      (Descriptor.payload? tag members).isSome = true := by
  rw [distinct_iff, isSome_payload?, ← names_payload, List.forall_mem_map]
  exact ⟨fun h => ⟨h.once, h.holds⟩, fun h => ⟨h.1, h.2⟩⟩

/-! ### Tags -/

namespace Tag

theorem textIn?_eq_some_iff (v : Json) (text : String) :
    textIn? v = some text ↔ v.Tagged text := by
  cases v with
  | obj members =>
    simp only [textIn?, Json.field?, Json.Tagged, Json.obj.injEq, exists_eq_left']
    rcases Assoc.get? "type" members with _ | (_ | _ | _ | _ | _ | _) <;> simp [Json.text?]
  | null | bool | num | str | arr => simp [textIn?, Json.field?, Json.Tagged]

theorem classify_eq_some_iff (v : Json) (tag : Tag) :
    classify v = some tag ↔ v.Tagged tag.text := by
  rw [← textIn?_eq_some_iff]
  refine ⟨text_of_classify v tag, fun found => ?_⟩
  rw [classify, found, Option.bind_some, ofText?_text]

theorem fits_iff (tag : Tag) (v : Json) : tag.fits v = true ↔ classify v = some tag := by
  rw [fits, beq_iff_eq, textIn?_eq_some_iff, classify_eq_some_iff]

theorem filter_fits (v : Json) : all.filter (fun tag => tag.fits v) = (classify v).toList := by
  have same : ∀ tag : Tag, tag.fits v = decide (classify v = some tag) := fun tag => by
    rw [Bool.eq_iff_iff, fits_iff, decide_eq_true_iff]
  simp only [same]
  rcases classify v with _ | tag
  · rfl
  · cases tag <;> rfl

end Tag

/-! ### The tag of a descriptor -/

namespace Descriptor

theorem kind?_payload? (tag : Tag) (members : Assoc Json) (d : Descriptor)
    (h : payload? tag members = some d) : d.kind? = some tag := by
  cases tag <;>
    simp only [payload?, Option.bind_eq_bind, Option.bind_eq_some_iff, Option.pure_def,
      Option.some.injEq] at h
  case array | inferred | intersection | intrinsic | literal | reflection | tuple | union |
      unknown =>
    obtain ⟨_, _, rfl⟩ := h
    rfl
  case indexedAccess | typeOperator =>
    obtain ⟨_, _, _, _, rfl⟩ := h
    rfl
  case predicate =>
    obtain ⟨_, _, _, _, _, _, rfl⟩ := h
    rfl
  case conditional =>
    obtain ⟨_, _, _, _, _, _, _, _, rfl⟩ := h
    rfl
  case reference =>
    obtain ⟨_, _, _, _, _, _, _, _, _, _, rfl⟩ := h
    rfl

theorem tag?_of_kind? (d : Descriptor) (tag : Tag) (h : d.kind? = some tag) :
    d.tag? = some tag.text := by
  cases d <;> cases h <;> rfl

theorem tagged_toJson (d : Descriptor) (tag : Tag) (h : d.kind? = some tag) :
    d.toJson.Tagged tag.text := by
  cases d <;> cases h <;> exact ⟨_, rfl, rfl⟩

/-- A value is recognized as what its tag says if it has a payload of the tag, and is kept as it
stands otherwise. -/
theorem ofJson_cases (v : Json) :
    (∃ tag members, Tag.classify v = some tag ∧ v = .obj members ∧ tag.Payload members ∧
      (ofJson v).kind? = some tag) ∨
    (ofJson v = .unrecognized v ∧
      ∀ tag members, Tag.classify v = some tag → v = .obj members → ¬ tag.Payload members) := by
  cases v with
  | obj members =>
    rw [ofJson_obj]
    cases tagged : Tag.classify (.obj members) with
    | none => exact .inr ⟨rfl, by simp⟩
    | some tag =>
      rw [Option.bind_some]
      by_cases payload : tag.Payload members
      · obtain ⟨once, read⟩ := (payload_iff tag members).mp payload
        obtain ⟨d, read⟩ := Option.isSome_iff_exists.mp read
        refine .inl ⟨tag, members, rfl, rfl, payload, ?_⟩
        rw [if_pos once, read]
        exact kind?_payload? tag members d read
      · refine .inr ⟨?_, ?_⟩
        · by_cases once : distinct (fieldNames tag) members = true
          · have refused : payload? tag members = none := by
              rw [← Option.not_isSome_iff_eq_none]
              exact fun read => payload ((payload_iff tag members).mpr ⟨once, read⟩)
            rw [if_pos once, refused, Option.getD_none]
          · rw [if_neg once, Option.getD_none]
        · rintro _ _ ⟨⟩ ⟨⟩
          exact payload
  | null | bool | num | str | arr =>
    refine .inr ⟨rfl, ?_⟩
    rintro _ _ - ⟨⟩

/-- What tag a value carries. The text that its descriptor reports is the string under `type`, and
what is written for the descriptor has the same string there; the value is classified by its known
tag, which is the only one whose test it passes; its descriptor has that tag or none, and none
exactly if there is no known tag or no payload of it. -/
theorem tags_agree (v : Json) :
    (∀ text, (ofJson v).tag? = some text ↔ v.Tagged text) ∧
    (∀ text, (ofJson v).toJson.Tagged text ↔ v.Tagged text) ∧
    (∀ tag, Tag.classify v = some tag ↔ v.Tagged tag.text) ∧
    ((ofJson v).kind? = Tag.classify v ∨ (ofJson v).kind? = none) ∧
    ((ofJson v).kind? = none ↔ Tag.classify v = none ∨
      ∃ tag members, Tag.classify v = some tag ∧ v = .obj members ∧ ¬ tag.Payload members) ∧
    (∀ tag, tag.fits v = true ↔ Tag.classify v = some tag) ∧
    Tag.all.filter (fun tag => tag.fits v) = (Tag.classify v).toList := by
  have classified := Tag.classify_eq_some_iff v
  have fits := fun tag => Tag.fits_iff tag v
  have one := Tag.filter_fits v
  obtain ⟨tag, members, tagged, rfl, payload, kind⟩ | ⟨kept, refused⟩ := ofJson_cases v
  · have reported : (ofJson (.obj members)).tag? = some tag.text := tag?_of_kind? _ tag kind
    have here : Json.Tagged (.obj members) tag.text := (classified tag).mp tagged
    have back : (ofJson (.obj members)).toJson.Tagged tag.text := tagged_toJson _ tag kind
    have known := kind.trans tagged.symm
    refine ⟨fun text => ?_, fun text => ?_, classified, .inl known, ?_, fits, one⟩
    · rw [reported, Option.some_inj]
      exact ⟨fun same => same ▸ here, fun other => here.unique other⟩
    · exact ⟨fun other => back.unique other ▸ here, fun other => here.unique other ▸ back⟩
    · simp only [kind, tagged, reduceCtorEq, false_or, false_iff, not_exists, not_and, not_not]
      rintro _ _ ⟨⟩ ⟨⟩
      exact payload
  · rw [kept]
    refine ⟨Tag.textIn?_eq_some_iff v, fun _ => .rfl, classified, .inr rfl, ?_, fits, one⟩
    refine iff_of_true rfl ?_
    cases tagged : Tag.classify v with
    | none => exact .inl rfl
    | some tag =>
      obtain ⟨members, rfl, -⟩ := (classified tag).mp tagged
      exact .inr ⟨tag, members, rfl, rfl, refused tag members tagged rfl⟩

end Descriptor

end TsWorkshop
