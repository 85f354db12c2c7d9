import TsWorkshop.Reflection.Shape
import TsWorkshop.Proofs.Json.Standard
import TsWorkshop.Proofs.Reflection.Located
import TsWorkshop.Proofs.Reflection.RoundTrip

/-!
Records that come out of JSON. `FromJson` says how: of a text, which may repeat unknown keys, or of
a value held by its content. Either way a record and all its parts are read from values without
repeated keys (`Decoded`), so they are written without repeated keys and read back as they are.
-/

namespace TsWorkshop

open Fields

/-- A record as it comes out of JSON: of a text, or of a value held by its content. -/
inductive FromJson {α : Type} (ofText : String → Except Complaint α) (read : Json → Option α)
    (a : α) : Prop
  | text (text : String) (h : ofText text = .ok a)
  | content (v : Json) (h : read v.canonical = some a)

/-- `a` was read from a value without repeated keys. -/
def Decoded {α : Type} (read : Json → Option α) (a : α) : Prop :=
  ∃ v : Json, v.uniqueKeys = true ∧ read v = some a

/-! ### Out of JSON -/

/-- No record of a reflection file has a field twice, and its tests accept no objects. -/
theorem Reflection.grammar_strict : Reflection.grammar.Strict := by
  have kinds : ∀ v, (RawKind.ofJson? v).isSome = true → v.uniqueKeys = true := by
    intro v h
    cases v with
    | null | bool | num | str => rfl
    | arr | obj => cases h
  constructor
  · intro name
    cases name <;> decide
  · intro name
    cases name <;>
      simp [Reflection.grammar, Reflection.nullable, Reflection.id, Reflection.kind,
        Reflection.string, Shape.Strict] <;>
      exact kinds

theorem decoded_readAs {α : Type} (shape : Shape Reflection.RecordName) (strict : shape.Strict)
    (read : Json → Option α) (text : String) (a : α)
    (h : Reflection.readAs shape read text = .ok a) : Decoded read a := by
  obtain ⟨v, inShape, h⟩ := (bind_eq_ok_iff _ _ _).mp h
  have unique := Shape.uniqueKeys_ofText _ Reflection.grammar_strict shape strict text v inShape
  cases hread : read v with
  | none =>
    rw [hread] at h
    cases h
  | some b =>
    rw [hread] at h
    cases h
    exact ⟨v, unique, hread⟩

theorem FromJson.decoded {α : Type} (ofText : String → Except Complaint α)
    (read : Json → Option α) (a : α) (texts : ∀ text, ofText text = .ok a → Decoded read a)
    (h : FromJson ofText read a) : Decoded read a := by
  cases h with
  | text text h => exact texts text h
  | content v h => exact ⟨v.canonical, v.uniqueKeys_canonical, h⟩

theorem Declaration.decoded (d : Declaration)
    (h : FromJson Declaration.ofText Declaration.ofJson? d) : Decoded Declaration.ofJson? d :=
  h.decoded _ _ _ fun text => decoded_readAs (.record .declaration) trivial _ text d

theorem Signature.decoded (s : Signature) (h : FromJson Signature.ofText Signature.ofJson? s) :
    Decoded Signature.ofJson? s :=
  h.decoded _ _ _ fun text => decoded_readAs (.record .signature) trivial _ text s

theorem Comment.decoded (c : Comment) (h : FromJson Comment.ofText Comment.ofJson? c) :
    Decoded Comment.ofJson? c :=
  h.decoded _ _ _ fun text => decoded_readAs (.record .comment) trivial _ text c

theorem Descriptor.decoded (d : Descriptor) (h : FromJson Descriptor.ofText Descriptor.ofJson? d) :
    Decoded Descriptor.ofJson? d := by
  refine h.decoded _ _ _ fun text h => ?_
  cases content : Json.ofText text with
  | error e =>
    rw [Descriptor.ofText, Json.contentOfText, content] at h
    cases h
  | ok v =>
    rw [Descriptor.ofText, Json.contentOfText, content] at h
    exact ⟨v.canonical, v.uniqueKeys_canonical, congrArg some (Except.ok.inj h)⟩

/-! ### Parts of a decoded record -/

section Parts

variable {α : Type} (name : String) (read : Json → Option α) (members : Assoc Json)
  (unique : (Json.obj members).uniqueKeys = true)

include unique

theorem decoded_field (a : α) (h : readNullable name read members = some (some a)) :
    Decoded read a := by
  obtain ⟨v, found, hread⟩ := readNullable_eq_some_some _ _ _ _ h
  have inside := Assoc.mem_of_get? name members v found
  exact ⟨v, ((Json.uniqueKeys_obj_iff members).mp unique).2 name v inside, hread⟩

theorem decoded_item (as : List α) (h : readNullable name (readList read) members = some (some as))
    (a : α) (member : a ∈ as) : Decoded read a := by
  obtain ⟨v, keys, hread⟩ := decoded_field name _ members unique as h
  obtain ⟨items, rfl, each⟩ := (readList_eq_some_iff read v as).mp hread
  obtain ⟨i, inside, rfl⟩ := List.getElem_of_mem member
  have here : i < items.length := each.length_eq ▸ inside
  exact ⟨items[i], (Json.uniqueKeys_arr_iff items).mp keys _ (List.getElem_mem here),
    each.get here inside⟩

end Parts

theorem Parameter.decoded_parts (p : Parameter) (h : Decoded Parameter.ofJson? p) :
    (∀ type, p.type = some type → Decoded Descriptor.ofJson? type) ∧
      ∀ comment, p.comment = some comment → Decoded Comment.ofJson? comment := by
  obtain ⟨v, unique, h⟩ := h
  cases v with
  | obj members =>
    have r := (Parameter.ofJson?_obj_iff members p).mp h
    exact ⟨fun type there => decoded_field _ _ members unique type (there ▸ r.type),
      fun comment there => decoded_field _ _ members unique comment (there ▸ r.comment)⟩
  | null | bool | num | str | arr => cases h

/-- What a signature holds is decoded if the signature is. -/
structure Signature.DecodedParts (s : Signature) : Prop where
  comment : ∀ c, s.comment = some c → Decoded Comment.ofJson? c
  parameters : ∀ ps, s.parameters = some ps → ∀ p ∈ ps, Decoded Parameter.ofJson? p
  type : ∀ t, s.type = some t → Decoded Descriptor.ofJson? t

theorem Signature.decodedParts (s : Signature) (h : Decoded Signature.ofJson? s) :
    s.DecodedParts := by
  obtain ⟨v, unique, h⟩ := h
  cases v with
  | obj members =>
    have r := (Signature.ofJson?_obj_iff members s).mp h
    exact ⟨fun c there => decoded_field _ _ members unique c (there ▸ r.comment),
      fun ps there => decoded_item _ _ members unique ps (there ▸ r.parameters),
      fun t there => decoded_field _ _ members unique t (there ▸ r.type)⟩
  | null | bool | num | str | arr => cases h

theorem OneOrMany.decoded_item (s : OneOrMany Signature)
    (h : Decoded Signature.oneOrManyOfJson? s) : ∀ x ∈ s.toList, Decoded Signature.ofJson? x := by
  obtain ⟨v, unique, h⟩ := h
  cases v with
  | arr items =>
    obtain ⟨ss, hread, rfl⟩ := Option.map_eq_some_iff.mp h
    intro x member
    have each := (mapM_eq_some_iff _ items ss).mp hread
    obtain ⟨i, inside, rfl⟩ := List.getElem_of_mem member
    have here : i < items.length := each.length_eq ▸ inside
    exact ⟨items[i], (Json.uniqueKeys_arr_iff items).mp unique _ (List.getElem_mem here),
      each.get here inside⟩
  | obj members =>
    obtain ⟨x, hread, rfl⟩ := Option.map_eq_some_iff.mp h
    intro y member
    rw [List.mem_singleton.mp member]
    exact ⟨.obj members, unique, hread⟩
  | null | bool | num | str => cases h

/-- What a declaration holds is decoded if the declaration is. -/
structure Declaration.DecodedParts (d : Declaration) : Prop where
  comment : ∀ c, d.comment = some c → Decoded Comment.ofJson? c
  members : ∀ member ∈ d.members, Decoded Declaration.ofJson? member
  signatures : ∀ s ∈ d.signatures.getD [], Decoded Signature.ofJson? s
  getSignature : ∀ ss, d.getSignature = some ss → ∀ s ∈ ss.toList, Decoded Signature.ofJson? s
  setSignature : ∀ ss, d.setSignature = some ss → ∀ s ∈ ss.toList, Decoded Signature.ofJson? s
  type : ∀ t, d.type = some t → Decoded Descriptor.ofJson? t

theorem Declaration.decodedParts (d : Declaration) (h : Decoded Declaration.ofJson? d) :
    d.DecodedParts := by
  obtain ⟨v, unique, h⟩ := h
  cases v with
  | obj members =>
    have r := (Declaration.ofJson?_obj_iff members d).mp h
    refine ⟨fun c there => decoded_field _ _ members unique c (there ▸ r.comment), ?_, ?_,
      fun ss there => ss.decoded_item ?_, fun ss there => ss.decoded_item ?_,
      fun t there => decoded_field _ _ members unique t (there ▸ r.type)⟩
    · intro member inside
      cases there : d.children with
      | none => simp [Declaration.members, there] at inside
      | some ds =>
        rw [Declaration.members, there] at inside
        exact decoded_item _ _ members unique ds (there ▸ r.children) member inside
    · intro s inside
      cases there : d.signatures with
      | none => simp [there] at inside
      | some ss =>
        rw [there] at inside
        exact decoded_item _ _ members unique ss (there ▸ r.signatures) s inside
    · exact decoded_field _ _ members unique ss (there ▸ r.getSignature)
    · exact decoded_field _ _ members unique ss (there ▸ r.setSignature)
  | null | bool | num | str | arr => cases h

/-! ### Writing a decoded record -/

theorem Comment.uniqueKeys_toJson (c : Comment) (h : Decoded Comment.ofJson? c) :
    c.toJson.uniqueKeys = true := by
  obtain ⟨v, unique, h⟩ := h
  exact (faithful_comment v c h).unique unique

theorem Descriptor.uniqueKeys_toJson (d : Descriptor) (h : Decoded Descriptor.ofJson? d) :
    d.toJson.uniqueKeys = true := by
  obtain ⟨v, unique, h⟩ := h
  exact ((preserved v).type d h).unique unique

theorem Signature.uniqueKeys_toJson (s : Signature) (h : Decoded Signature.ofJson? s) :
    s.toJson.uniqueKeys = true := by
  obtain ⟨v, unique, h⟩ := h
  exact ((preserved v).signature s h).unique unique

theorem Declaration.uniqueKeys_toJson (d : Declaration) (h : Decoded Declaration.ofJson? d) :
    d.toJson.uniqueKeys = true := by
  obtain ⟨v, unique, h⟩ := h
  exact ((preserved v).declaration d h).unique unique

end TsWorkshop
