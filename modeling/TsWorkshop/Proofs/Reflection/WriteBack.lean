import TsWorkshop.Proofs.Reflection.Comments
import TsWorkshop.Proofs.Reflection.Payload

/-!
Whatever is read from a value is written back. Descriptors, parameters, signatures and declarations
hold each other, so all four follow together by induction on the value: `preserved` is the one
statement about a value that its parts are assumed to satisfy.
-/

namespace TsWorkshop

open Fields

/-! ### One or many signatures -/

/-- The spelling of one signature or a list of signatures is kept. -/
theorem faithful_oneOrMany (v : Json)
    (whole : Faithful .signature Signature.ofJson? Signature.toJson v)
    (items : Faithful .signature (readList Signature.ofJson?)
      (fun ss => .arr (ss.map Signature.toJson)) v) :
    Faithful .signature Signature.oneOrManyOfJson? OneOrMany.signatureToJson v := by
  intro s h
  cases v with
  | arr vs =>
    obtain ⟨ss, read, rfl⟩ := Option.map_eq_some_iff.mp h
    have back := items ss read
    refine ⟨?_, back.kept, back.unique, back.null⟩
    have reread : (ss.map Signature.toJson).mapM Signature.ofJson? = some ss := back.reread
    simp [OneOrMany.signatureToJson, Signature.oneOrManyOfJson?, reread]
  | obj members =>
    obtain ⟨s, read, rfl⟩ := Option.map_eq_some_iff.mp h
    have back := whole s read
    refine ⟨?_, back.kept, back.unique, back.null⟩
    have object : ∃ ws, s.toJson = .obj ws := by
      obtain ⟨id, name, kind, kindString, comment, parameters, type, extra⟩ := s
      exact ⟨_, rfl⟩
    obtain ⟨ws, form⟩ := object
    have reread := back.reread
    rw [form] at reread
    simp [OneOrMany.signatureToJson, form, Signature.oneOrManyOfJson?, reread]
  | null | bool | num | str => cases h

/-! ### Records -/

section Record

variable (members : Assoc Json)
  (parts : ∀ part, sizeOf part < sizeOf (Json.obj members) → Preserved part)

include parts

theorem faithful_parameter :
    Faithful .parameter Parameter.ofJson? Parameter.toJson (.obj members) := by
  intro p h
  have r := (Parameter.ofJson?_obj_iff members p).mp h
  have text : ∀ name v, Assoc.get? name members = some v → Faithful .plain Json.text? .str v :=
    fun _ v _ => faithful_text v
  have id := FieldWritten.nullable .plain _ _ _ _ (fun v _ => faithful_id v) _ r.id
  have name := FieldWritten.required .plain _ _ _ _ (text _) _ r.name
  have type := FieldWritten.nullable .type _ _ _ _ (faithful_typeAt members parts _) _ r.type
  have value := FieldWritten.nullable .plain _ _ _ _ (text _) _ r.defaultValue
  have comment :=
    FieldWritten.nullable .comment _ _ _ _ (fun v _ => faithful_comment v) _ r.comment
  rw [Parameter.toJson_eq, r.extra]
  refine writtenBack_record members _ (by simp [Parameter.fields]) .parameter _ _ ?_ ?_
  · simp only [Parameter.fields, List.forall_mem_cons]
    exact ⟨id.kept _ _ _ _ _ _ _ rfl, name.kept _ _ _ _ _ _ _ rfl, type.kept _ _ _ _ _ _ _ rfl,
      value.kept _ _ _ _ _ _ _ rfl, comment.kept _ _ _ _ _ _ _ rfl, by simp⟩
  · intro ws found unique rest
    simp only [Parameter.fields, List.forall_mem_cons] at found
    obtain ⟨hid, hname, htype, hvalue, hcomment, -⟩ := found
    refine (Parameter.ofJson?_obj_iff ws p).mpr ⟨distinct_of_nodup _ ws unique, ?_, ?_, ?_, ?_, ?_,
      r.extra.trans rest.symm⟩
    · exact id.reread ws hid
    · exact name.reread ws hname
    · exact type.reread ws htype
    · exact value.reread ws hvalue
    · exact comment.reread ws hcomment

theorem faithful_signature :
    Faithful .signature Signature.ofJson? Signature.toJson (.obj members) := by
  intro s h
  have r := (Signature.ofJson?_obj_iff members s).mp h
  have text : ∀ name v, Assoc.get? name members = some v → Faithful .plain Json.text? .str v :=
    fun _ v _ => faithful_text v
  have parametersAt := faithful_listAt members .parameter _ _
    fun part small => (parts part small).parameter
  have id := FieldWritten.nullable .plain _ _ _ _ (fun v _ => faithful_id v) _ r.id
  have name := FieldWritten.required .plain _ _ _ _ (text _) _ r.name
  have kind := FieldWritten.nullable .plain _ _ _ _ (fun v _ => faithful_rawKind v) _ r.kind
  have label := FieldWritten.nullable .plain _ _ _ _ (text _) _ r.kindString
  have comment :=
    FieldWritten.nullable .comment _ _ _ _ (fun v _ => faithful_comment v) _ r.comment
  have parameters := FieldWritten.nullable .parameter _ _ _ _ (parametersAt _) _ r.parameters
  have type := FieldWritten.nullable .type _ _ _ _ (faithful_typeAt members parts _) _ r.type
  rw [Signature.toJson_eq, r.extra]
  refine writtenBack_record members _ (by simp [Signature.fields]) .signature _ _ ?_ ?_
  · simp only [Signature.fields, List.forall_mem_cons]
    exact ⟨id.kept _ _ _ _ _ _ _ rfl, name.kept _ _ _ _ _ _ _ rfl, kind.kept _ _ _ _ _ _ _ rfl,
      label.kept _ _ _ _ _ _ _ rfl, comment.kept _ _ _ _ _ _ _ rfl,
      parameters.kept _ _ _ _ _ _ _ rfl, type.kept _ _ _ _ _ _ _ rfl, by simp⟩
  · intro ws found unique rest
    simp only [Signature.fields, List.forall_mem_cons] at found
    obtain ⟨hid, hname, hkind, hlabel, hcomment, hparameters, htype, -⟩ := found
    refine (Signature.ofJson?_obj_iff ws s).mpr ⟨distinct_of_nodup _ ws unique, ?_, ?_, ?_, ?_, ?_,
      ?_, ?_, r.extra.trans rest.symm⟩
    · exact id.reread ws hid
    · exact name.reread ws hname
    · exact kind.reread ws hkind
    · exact label.reread ws hlabel
    · exact comment.reread ws hcomment
    · exact parameters.reread ws hparameters
    · exact type.reread ws htype

theorem faithful_declaration :
    Faithful .declaration Declaration.ofJson? Declaration.toJson (.obj members) := by
  intro d h
  have r := (Declaration.ofJson?_obj_iff members d).mp h
  have text : ∀ name v, Assoc.get? name members = some v → Faithful .plain Json.text? .str v :=
    fun _ v _ => faithful_text v
  have childrenAt := faithful_listAt members .declaration _ _
    fun part small => (parts part small).declaration
  have signaturesAt := faithful_listAt members .signature _ _
    fun part small => (parts part small).signature
  have accessorAt : ∀ name v, Assoc.get? name members = some v →
      Faithful .signature Signature.oneOrManyOfJson? OneOrMany.signatureToJson v := by
    intro name v found
    exact faithful_oneOrMany v (parts v (sizeOf_of_get? members name v found)).signature
      (signaturesAt name v found)
  have genericsAt := faithful_listAt members .plain _ _ fun part _ => faithful_typeParameter part
  have id := FieldWritten.nullable .plain _ _ _ _ (fun v _ => faithful_id v) _ r.id
  have name := FieldWritten.required .plain _ _ _ _ (text _) _ r.name
  have kind := FieldWritten.nullable .plain _ _ _ _ (fun v _ => faithful_rawKind v) _ r.kind
  have label := FieldWritten.nullable .plain _ _ _ _ (text _) _ r.kindString
  have comment :=
    FieldWritten.nullable .comment _ _ _ _ (fun v _ => faithful_comment v) _ r.comment
  have children := FieldWritten.nullable .declaration _ _ _ _ (childrenAt _) _ r.children
  have signatures := FieldWritten.nullable .signature _ _ _ _ (signaturesAt _) _ r.signatures
  have get := FieldWritten.nullable .signature _ _ _ _ (accessorAt _) _ r.getSignature
  have set := FieldWritten.nullable .signature _ _ _ _ (accessorAt _) _ r.setSignature
  have type := FieldWritten.nullable .type _ _ _ _ (faithful_typeAt members parts _) _ r.type
  have generics := FieldWritten.nullable .plain _ _ _ _ (genericsAt _) _ r.typeParameter
  have generics' := FieldWritten.nullable .plain _ _ _ _ (genericsAt _) _ r.typeParameters
  have value := FieldWritten.nullable .plain _ _ _ _ (text _) _ r.defaultValue
  rw [Declaration.toJson_eq, r.extra]
  refine writtenBack_record members _ (by simp [Declaration.fields]) .declaration _ _ ?_ ?_
  · simp only [Declaration.fields, List.forall_mem_cons]
    exact ⟨id.kept _ _ _ _ _ _ _ rfl, name.kept _ _ _ _ _ _ _ rfl, kind.kept _ _ _ _ _ _ _ rfl,
      label.kept _ _ _ _ _ _ _ rfl, comment.kept _ _ _ _ _ _ _ rfl,
      children.kept _ _ _ _ _ _ _ rfl, signatures.kept _ _ _ _ _ _ _ rfl,
      get.kept _ _ _ _ _ _ _ rfl, set.kept _ _ _ _ _ _ _ rfl, type.kept _ _ _ _ _ _ _ rfl,
      generics.kept _ _ _ _ _ _ _ rfl, generics'.kept _ _ _ _ _ _ _ rfl,
      value.kept _ _ _ _ _ _ _ rfl, by simp⟩
  · intro ws found unique rest
    simp only [Declaration.fields, List.forall_mem_cons] at found
    obtain ⟨hid, hname, hkind, hlabel, hcomment, hchildren, hsignatures, hget, hset, htype,
      hgenerics, hgenerics', hvalue, -⟩ := found
    refine (Declaration.ofJson?_obj_iff ws d).mpr ⟨distinct_of_nodup _ ws unique, ?_, ?_, ?_, ?_,
      ?_, ?_, ?_, ?_, ?_, ?_, ?_, ?_, ?_, r.extra.trans rest.symm⟩
    · exact id.reread ws hid
    · exact name.reread ws hname
    · exact kind.reread ws hkind
    · exact label.reread ws hlabel
    · exact comment.reread ws hcomment
    · exact children.reread ws hchildren
    · exact signatures.reread ws hsignatures
    · exact get.reread ws hget
    · exact set.reread ws hset
    · exact type.reread ws htype
    · exact generics.reread ws hgenerics
    · exact generics'.reread ws hgenerics'
    · exact value.reread ws hvalue

end Record

/-! ### All values -/

/-- Every value, read as any of the four, is written back. -/
theorem preserved (v : Json) : Preserved v := by
  induction v using Json.induction_on_parts with
  | step v parts =>
    cases v with
    | obj members =>
      exact ⟨faithful_descriptor members parts, faithful_declaration members parts,
        faithful_signature members parts, faithful_parameter members parts⟩
    | null | bool | num | str | arr =>
      refine ⟨fun d h => ?_, fun _ h => (nomatch h), fun _ h => (nomatch h), fun _ h => (nomatch h)⟩
      obtain rfl := Option.some.inj h
      exact WrittenBack.same _ _ _ _ h

end TsWorkshop
