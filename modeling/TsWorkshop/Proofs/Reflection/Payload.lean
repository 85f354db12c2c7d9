import TsWorkshop.Proofs.Reflection.Reading
import TsWorkshop.Proofs.Reflection.Writing
import TsWorkshop.Proofs.Reflection.Written

/-!
The payload of a descriptor is written back under its tag, if everything inside the value is. What
a tag adds is the list of its fields; a value whose payload does not fit is written as it stands.
-/

namespace TsWorkshop

open Fields

/-- Whatever `v` is read as, it is written back. -/
structure Preserved (v : Json) : Prop where
  type : Faithful .type Descriptor.ofJson? Descriptor.toJson v
  declaration : Faithful .declaration Declaration.ofJson? Declaration.toJson v
  signature : Faithful .signature Signature.ofJson? Signature.toJson v
  parameter : Faithful .parameter Parameter.ofJson? Parameter.toJson v

/-- The fields of the payload under a tag that is written for `d`, which was read from `members`. -/
structure PayloadWritten (tag : Tag) (members : Assoc Json) (d : Descriptor)
    (fields : List (String × Option Json)) : Prop where
  names : fields.map Prod.fst = Descriptor.fieldNames tag
  form : d.toJson =
    .obj (("type", .str tag.text) :: written fields (Descriptor.othersOf tag members))
  kept : ∀ field ∈ fields, FieldKept .type members field.1 field.2
  reread : ∀ ws, (∀ field ∈ fields, Assoc.get? field.1 ws = field.2) →
    Descriptor.othersOf tag ws = Descriptor.othersOf tag members →
    Descriptor.payload? tag ws = some d

theorem sizeOf_of_get? (members : Assoc Json) (name : String) (v : Json)
    (h : Assoc.get? name members = some v) : sizeOf v < sizeOf (Json.obj members) :=
  Json.sizeOf_member name v members (Assoc.mem_of_get? name members v h)

/-! ### The tag -/

theorem Tag.text_of_classify (v : Json) (tag : Tag) (h : Tag.classify v = some tag) :
    Tag.textIn? v = some tag.text := by
  obtain ⟨text, found, known⟩ := Option.bind_eq_some_iff.mp h
  have same := List.find?_some known
  rw [found, eq_of_beq same]

theorem Tag.ofText?_text (tag : Tag) : Tag.ofText? tag.text = some tag := by
  cases tag <;> rfl

/-- The member of an object with a known tag that holds it. -/
theorem Tag.get?_of_classify (members : Assoc Json) (tag : Tag)
    (h : Tag.classify (.obj members) = some tag) :
    Assoc.get? "type" members = some (.str tag.text) := by
  obtain ⟨v, found, text⟩ := Option.bind_eq_some_iff.mp (Tag.text_of_classify _ tag h)
  cases v <;> simp only [Json.text?, reduceCtorEq, Option.some.injEq] at text
  rw [← text]
  exact found

theorem Tag.classify_of_get? (members : Assoc Json) (tag : Tag)
    (h : Assoc.get? "type" members = some (.str tag.text)) :
    Tag.classify (.obj members) = some tag := by
  have text : Tag.textIn? (.obj members) = some tag.text := by
    simp [Tag.textIn?, Json.field?, h, Json.text?]
  rw [Tag.classify, text, Option.bind_some, Tag.ofText?_text]

/-! ### The payload -/

section Payload

variable (members : Assoc Json)

/-- A payload of one field is written. -/
theorem PayloadWritten.one {α : Type} (tag : Tag) (tagged : Tag.classify (.obj members) = some tag)
    (part : Role) (name : String) (read : Assoc Json → Option α) (value : Option Json) (a : α)
    (make : α → Extra → Descriptor) (field : FieldWritten part name members read value a)
    (names : Descriptor.fieldNames tag = [name])
    (payload : ∀ ws, Descriptor.payload? tag ws =
      (read ws).bind fun a => some (make a (Descriptor.othersOf tag ws)))
    (place : (Assoc.get? name (Role.inPayload tag)).getD .plain = part)
    (form : ∀ extra, (make a extra).toJson =
      .obj (("type", .str tag.text) :: (optionalMember name value ++ extra))) :
    PayloadWritten tag members (make a (Descriptor.othersOf tag members)) [(name, value)] := by
  refine ⟨names.symm, ?_, ?_, fun ws found others => ?_⟩
  · simp [form, written]
  · have role : Role.member .type (.obj members) name = part := by
      rw [Role.member, Role.inObject, tagged]
      exact place
    simpa using field.kept .type _ _ _ _ _ _ role
  · rw [payload, field.reread ws (found (name, value) (by simp)), others, Option.bind_some]

/-- A list under a name is written back if its items are. -/
theorem faithful_listAt {α : Type} (role : Role) (read : Json → Option α) (write : α → Json)
    (items : ∀ item, sizeOf item < sizeOf (Json.obj members) → Faithful role read write item)
    (name : String) (v : Json) (found : Assoc.get? name members = some v) :
    Faithful role (readList read) (fun as => .arr (as.map write)) v :=
  faithful_list role read write v fun item small =>
    items item (small.trans (sizeOf_of_get? members name v found))

variable (parts : ∀ part, sizeOf part < sizeOf (Json.obj members) → Preserved part)

include parts

theorem faithful_typeAt (name : String) (v : Json) (found : Assoc.get? name members = some v) :
    Faithful .type Descriptor.ofJson? Descriptor.toJson v :=
  (parts v (sizeOf_of_get? members name v found)).type

/-- Every payload is written field by field. -/
theorem exists_payloadWritten (tag : Tag) (tagged : Tag.classify (.obj members) = some tag)
    (d : Descriptor) (h : Descriptor.payload? tag members = some d) :
    ∃ fields, PayloadWritten tag members d fields := by
  have place : ∀ {α : Type} {part : Role} {name : String} {read : Assoc Json → Option α}
      {value : Option Json} {a : α}, FieldWritten part name members read value a →
      (Assoc.get? name (Role.inPayload tag)).getD .plain = part →
      FieldKept .type members name value := by
    intro α part name read value a field here
    refine field.kept .type _ _ _ _ _ _ ?_
    rw [Role.member, Role.inObject, tagged]
    exact here
  have typed := faithful_typeAt members parts
  have listed := faithful_listAt members .type _ _ fun part small => (parts part small).type
  have text : ∀ name v, Assoc.get? name members = some v → Faithful .plain Json.text? .str v :=
    fun _ v _ => faithful_text v
  cases tag <;>
    simp only [Descriptor.payload?, Option.bind_eq_bind, Option.bind_eq_some_iff, Option.pure_def,
      Option.some.injEq] at h
  case array =>
    obtain ⟨element, read, rfl⟩ := h
    have field := FieldWritten.required .type _ _ _ _ (typed _) _ read
    exact ⟨_, .one members _ tagged _ _ _ _ _ .array field rfl (fun _ => rfl) rfl fun _ => rfl⟩
  case inferred | intrinsic | unknown =>
    obtain ⟨name, read, rfl⟩ := h
    have field := FieldWritten.defaulted .plain _ _ _ _ (text _) _ _ read rfl rfl
      (by simp [absentFields])
    exact ⟨_, .one members _ tagged _ _ _ _ _ _ field rfl (fun _ => rfl) rfl fun _ => rfl⟩
  case intersection | union =>
    obtain ⟨types, read, rfl⟩ := h
    have field := FieldWritten.defaulted .type _ _ _ _ (listed _) _ _ read rfl rfl
      (by simp [absentFields])
    refine ⟨_, .one members _ tagged _ _ _ _ _ _ field rfl (fun _ => rfl) rfl fun _ => ?_⟩
    simp [Descriptor.toJson, Tag.text, descriptorsToJson_eq_map]
  case reflection =>
    obtain ⟨declaration, read, rfl⟩ := h
    have field := FieldWritten.nullable .declaration "declaration" _ Declaration.toJson members
      (fun v found => (parts v (sizeOf_of_get? members _ v found)).declaration) _ read
    refine ⟨_, .one members _ tagged _ _ _ _ _ .reflection field rfl (fun _ => rfl) rfl fun _ => ?_⟩
    simp [Descriptor.toJson, Tag.text]
  case tuple =>
    obtain ⟨elements, read, rfl⟩ := h
    have field := FieldWritten.nullable .type _ _ _ _ (listed _) _ read
    refine ⟨_, .one members _ tagged _ _ _ _ _ .tuple field rfl (fun _ => rfl) rfl fun _ => ?_⟩
    simp [Descriptor.toJson, Tag.text]
  case literal =>
    obtain ⟨value, read, rfl⟩ := h
    have field := FieldWritten.defaulted .literal "value" _ Literal.toJson members
      (fun v _ => faithful_literal v) .null _ read rfl rfl (by simp [absentFields, Literal.toJson])
    exact ⟨_, .one members _ tagged _ _ _ _ _ .literal field rfl (fun _ => rfl) rfl fun _ => rfl⟩
  case indexedAccess =>
    obtain ⟨object, hobject, index, hindex, rfl⟩ := h
    have object' := FieldWritten.required .type _ _ _ _ (typed _) _ hobject
    have index' := FieldWritten.required .type _ _ _ _ (typed _) _ hindex
    refine ⟨[("objectType", some object.toJson), ("indexType", some index.toJson)], rfl, ?_, ?_,
      fun ws found others => ?_⟩
    · simp [Descriptor.toJson, Tag.text, written]
    · simpa using ⟨place object' rfl, place index' rfl⟩
    · simp only [List.forall_mem_cons] at found
      obtain ⟨first, second, -⟩ := found
      simp [Descriptor.payload?, object'.reread ws first, index'.reread ws second, others]
  case typeOperator =>
    obtain ⟨operator, hoperator, target, htarget, rfl⟩ := h
    have operator' := FieldWritten.required .plain _ _ _ _ (text _) _ hoperator
    have target' := FieldWritten.required .type _ _ _ _ (typed _) _ htarget
    refine ⟨[("operator", some (.str operator)), ("target", some target.toJson)], rfl, ?_, ?_,
      fun ws found others => ?_⟩
    · simp [Descriptor.toJson, Tag.text, written]
    · simpa using ⟨place operator' rfl, place target' rfl⟩
    · simp only [List.forall_mem_cons] at found
      obtain ⟨first, second, -⟩ := found
      simp [Descriptor.payload?, operator'.reread ws first, target'.reread ws second, others]
  case conditional =>
    obtain ⟨check, hcheck, base, hbase, whenTrue, htrue, whenFalse, hfalse, rfl⟩ := h
    have check' := FieldWritten.required .type _ _ _ _ (typed _) _ hcheck
    have base' := FieldWritten.required .type _ _ _ _ (typed _) _ hbase
    have true' := FieldWritten.required .type _ _ _ _ (typed _) _ htrue
    have false' := FieldWritten.required .type _ _ _ _ (typed _) _ hfalse
    refine ⟨[("checkType", some check.toJson), ("extendsType", some base.toJson),
      ("trueType", some whenTrue.toJson), ("falseType", some whenFalse.toJson)], rfl, ?_, ?_,
      fun ws found others => ?_⟩
    · simp [Descriptor.toJson, Tag.text, written]
    · simpa using ⟨place check' rfl, place base' rfl, place true' rfl, place false' rfl⟩
    · simp only [List.forall_mem_cons] at found
      obtain ⟨first, second, third, fourth, -⟩ := found
      simp [Descriptor.payload?, check'.reread ws first, base'.reread ws second,
        true'.reread ws third, false'.reread ws fourth, others]
  case predicate =>
    obtain ⟨name, hname, asserts, hasserts, target, htarget, rfl⟩ := h
    have name' := FieldWritten.required .plain _ _ _ _ (text _) _ hname
    have asserts' := FieldWritten.defaulted .plain _ _ _ _ (fun v _ => faithful_flag v) _ _ hasserts
      rfl rfl (by simp [absentFields])
    have target' := FieldWritten.nullable .type _ _ _ _ (typed _) _ htarget
    refine ⟨[("name", some (.str name)), ("asserts", some (.bool asserts)),
      ("targetType", target.map Descriptor.toJson)], rfl, ?_, ?_, fun ws found others => ?_⟩
    · simp [Descriptor.toJson, Tag.text, written]
    · simpa using ⟨place name' rfl, place asserts' rfl, place target' rfl⟩
    · simp only [List.forall_mem_cons] at found
      obtain ⟨first, second, third, -⟩ := found
      simp [Descriptor.payload?, name'.reread ws first, asserts'.reread ws second,
        target'.reread ws third, others]
  case reference =>
    obtain ⟨name, hname, id, hid, arguments, harguments, qualified, hqualified, package, hpackage,
      rfl⟩ := h
    have name' := FieldWritten.required .plain _ _ _ _ (text _) _ hname
    have id' := FieldWritten.nullable .plain _ _ _ _ (fun v _ => faithful_id v) _ hid
    have arguments' := FieldWritten.nullable .type _ _ _ _ (listed _) _ harguments
    have qualified' := FieldWritten.nullable .plain _ _ _ _ (text _) _ hqualified
    have package' := FieldWritten.nullable .plain _ _ _ _ (text _) _ hpackage
    refine ⟨[("name", some (.str name)), ("id", id.map fun n => .ofInt n.toInt),
      ("typeArguments", arguments.map fun ds => .arr (ds.map Descriptor.toJson)),
      ("qualifiedName", qualified.map .str), ("package", package.map .str)], rfl, ?_, ?_,
      fun ws found others => ?_⟩
    · simp [Descriptor.toJson, Tag.text, written, idMember]
    · simpa using ⟨place name' rfl, place id' rfl, place arguments' rfl, place qualified' rfl,
        place package' rfl⟩
    · simp only [List.forall_mem_cons] at found
      obtain ⟨first, second, third, fourth, fifth, -⟩ := found
      simp [Descriptor.payload?, name'.reread ws first, id'.reread ws second,
        arguments'.reread ws third, qualified'.reread ws fourth, package'.reread ws fifth, others]

/-- An object with a known tag and a payload that fits is written back under the tag. -/
theorem writtenBack_payload (tag : Tag) (tagged : Tag.classify (.obj members) = some tag)
    (d : Descriptor) (h : Descriptor.payload? tag members = some d) :
    WrittenBack .type Descriptor.ofJson? (.obj members) d.toJson d := by
  obtain ⟨fields, names, form, kept, reread⟩ :=
    exists_payloadWritten members parts tag tagged d h
  have untagged : "type" ∉ Descriptor.fieldNames tag := by cases tag <;> decide
  have nodup : (Descriptor.fieldNames tag).Nodup := by cases tag <;> decide
  have record : d.toJson = .obj (rewritten members (("type", some (.str tag.text)) :: fields)) := by
    simp [form, rewritten, written, Descriptor.othersOf, names]
  rw [record]
  refine writtenBack_record members _ (by simp [names, untagged, nodup]) .type _ d ?_ ?_
  · have there := Tag.get?_of_classify members tag tagged
    have field : FieldKept .type members "type" (some (.str tag.text)) := by
      refine ⟨fun _ => ⟨fun _ _ _ => ⟨_, rfl⟩, fun v w found written => ?_, ?_⟩, ?_⟩
      · obtain rfl : v = w := Option.some.inj (found.symm.trans (there.trans written))
        exact Kept.refl _ v
      · intro w missing
        rw [there] at missing
        cases missing
      · rintro - w written
        cases written
        rfl
    exact List.forall_mem_cons.mpr ⟨field, kept⟩
  · intro ws found unique others
    simp only [List.forall_mem_cons] at found
    rw [List.map_cons, names] at others
    rw [Descriptor.ofJson?, Descriptor.ofJson_obj, Tag.classify_of_get? ws tag found.1,
      Option.bind_some, if_pos (distinct_of_nodup _ ws unique), reread ws found.2 others]
    rfl

/-- A descriptor is written back if everything inside the value is. -/
theorem faithful_descriptor :
    Faithful .type Descriptor.ofJson? Descriptor.toJson (.obj members) := by
  intro d h
  obtain rfl := Option.some.inj h
  rw [Descriptor.ofJson_obj] at h ⊢
  cases fits : (Tag.classify (.obj members)).bind fun tag =>
      if distinct (Descriptor.fieldNames tag) members then Descriptor.payload? tag members
      else none with
  | none => exact WrittenBack.same _ _ _ _ (by rw [Descriptor.ofJson?, Descriptor.ofJson_obj, fits])
  | some d =>
    obtain ⟨tag, tagged, fits⟩ := Option.bind_eq_some_iff.mp fits
    rw [Option.ite_none_right_eq_some] at fits
    exact writtenBack_payload members parts tag tagged d fits.2

end Payload

end TsWorkshop
