import TsWorkshop.Proofs.Reflection.Canonical
import TsWorkshop.Proofs.Reflection.Reading

/-!
The order of members does not show in what is read: reading the canonical form of a value without
repeated keys gives the canonical form of what is read from the value (`readsOrderFree`).
-/

namespace TsWorkshop

open Fields
open Json (sortedMembers)

/-! ### Fields of canonical members -/

/-- What is read from the canonical form of `v` is the canonical form of what is read from `v`. -/
def OrderFree {α : Type} (read : Json → Option α) (f : α → α) (v : Json) : Prop :=
  read v.canonical = (read v).map f

/-- Reading a field commutes with sorting if the rest of the record does. -/
theorem bind_orderFree {α β : Type} (x : Option α) (f : α → α) (next sorted : α → Option β)
    (k : β → β) (h : ∀ a, sorted (f a) = (next a).map k) :
    (x.map f).bind sorted = (x.bind next).map k := by
  cases x with
  | none => rfl
  | some a => exact h a

section Fields

variable {α : Type} (name : String) (read : Json → Option α) (f : α → α) (members : Assoc Json)
  (unique : (Assoc.keys members).Nodup)
  (parts : ∀ v, Assoc.get? name members = some v → OrderFree read f v)

include unique parts

theorem readRequired_sortedMembers :
    readRequired name read (sortedMembers members) = (readRequired name read members).map f := by
  rw [readRequired, readRequired, Json.get?_sortedMembers name members unique]
  cases found : Assoc.get? name members with
  | none => rfl
  | some v => exact parts v found

theorem readNullable_sortedMembers :
    readNullable name read (sortedMembers members) =
      (readNullable name read members).map (Option.map f) := by
  rw [readNullable, readNullable, nullable, nullable,
    readRequired_sortedMembers name read f members unique parts,
    Json.get?_sortedMembers name members unique]
  cases found : Assoc.get? name members with
  | none => rfl
  | some v => cases v <;> simp [Option.map_map, Function.comp_def]

theorem readDefaulted_sortedMembers (default : α) (fixed : f default = default) :
    readDefaulted name default read (sortedMembers members) =
      (readDefaulted name default read members).map f := by
  rw [readDefaulted, readDefaulted, defaulted, defaulted,
    readRequired_sortedMembers name read f members unique parts,
    Json.get?_sortedMembers name members unique]
  cases found : Assoc.get? name members <;> simp [fixed]

end Fields

theorem orderFree_list {α : Type} (read : Json → Option α) (f : α → α) (v : Json)
    (unique : v.uniqueKeys = true)
    (items : ∀ item, sizeOf item < sizeOf v → item.uniqueKeys = true → OrderFree read f item) :
    OrderFree (readList read) (List.map f) v := by
  unfold OrderFree
  cases v with
  | arr vs =>
    rw [Json.uniqueKeys_arr_iff] at unique
    have each : ∀ v ∈ vs, read v.canonical = (read v).map f :=
      fun v inside => items v (Json.sizeOf_item v vs inside) (unique v inside)
    simp only [Json.canonical_arr, readList]
    clear items unique
    induction vs with
    | nil => rfl
    | cons v vs ih =>
      have rest := ih fun v inside => each v (List.mem_cons_of_mem _ inside)
      simp only [List.map_cons, List.mapM_cons, each v List.mem_cons_self, rest]
      cases read v with
      | none => rfl
      | some a => cases vs.mapM read <;> rfl
  | null | bool | num | str | obj => rfl

/-- The members that a record keeps from a canonical object are sorted. -/
theorem others_sortedMembers (known : List String) (members : Assoc Json)
    (unique : (Assoc.keys members).Nodup) :
    others known (sortedMembers members) = sortedMembers (others known members) := by
  have sorted := Json.ascending_sortedMembers members
  have kept := apart_others known members
  have ascending : Assoc.Ascending (others known (sortedMembers members)) := by
    have filtered : Assoc.Ascending
        ((sortedMembers members).filter fun member => !known.contains member.1) := sorted.filter _
    rwa [others_eq, Assoc.merged_of_nodup _ filtered.nodup_keys]
  refine Assoc.eq_of_get?_eq _ _ ascending (Json.ascending_sortedMembers _) fun name => ?_
  rw [Json.get?_sortedMembers name _ kept.unique]
  by_cases field : name ∈ known
  · rw [(apart_others known _).get?_eq_none _ _ name field, kept.get?_eq_none _ _ name field]
    rfl
  · rw [get?_others known _ sorted.nodup_keys name field, get?_others known _ unique name field,
      Json.get?_sortedMembers name members unique]

/-! ### Values without parts -/

theorem orderFree_text (v : Json) : OrderFree Json.text? id v := by
  cases v <;> simp [OrderFree, Json.text?]

theorem orderFree_flag (v : Json) : OrderFree Json.flag? id v := by
  cases v <;> simp [OrderFree, Json.flag?]

theorem orderFree_id (v : Json) : OrderFree int64? id v := by
  cases v <;> simp [OrderFree, int64?, Json.whole?]

theorem orderFree_rawKind (v : Json) : OrderFree RawKind.ofJson? id v := by
  cases v <;> simp [OrderFree, RawKind.ofJson?]

theorem orderFree_literal (v : Json) (unique : v.uniqueKeys = true) :
    OrderFree Literal.ofJson? id v := by
  cases v with
  | obj members =>
    have keysUnique := ((Json.uniqueKeys_obj_iff members).mp unique).1
    have sorted := (Json.ascending_sortedMembers members).nodup_keys
    simp only [OrderFree, Json.canonical_obj, Literal.ofJson?, distinct_of_nodup _ _ keysUnique,
      distinct_of_nodup _ _ sorted]
    have digits := readRequired_sortedMembers "value" Json.text? id members keysUnique
      fun v _ => orderFree_text v
    have negative := readRequired_sortedMembers "negative" Json.flag? id members keysUnique
      fun v _ => orderFree_flag v
    simp only [readRequired] at digits negative
    simp [text?, digits, negative]
  | null | bool | num | str | arr => simp [OrderFree, Literal.ofJson?]

theorem CommentTag.ofJson?_canonical_arr (items : List Json) :
    CommentTag.ofJson? (Json.arr items).canonical = CommentTag.ofJson? (.arr items) := by
  rw [Json.canonical_arr]
  rcases items with _ | ⟨tag, _ | ⟨text, _ | ⟨param, _ | ⟨fourth, rest⟩⟩⟩⟩
  · rfl
  · cases tag <;> simp [CommentTag.ofJson?]
  · cases tag <;> cases text <;> simp [CommentTag.ofJson?]
  · cases tag with
    | str tag =>
      cases text with
      | str text => cases param <;> simp [CommentTag.ofJson?]
      | null | bool | num | arr | obj => rfl
    | null | bool | num | arr | obj => rfl
  · simp [CommentTag.ofJson?]

theorem orderFree_commentTag (v : Json) (unique : v.uniqueKeys = true) :
    OrderFree CommentTag.ofJson? id v := by
  cases v with
  | obj members =>
    have keysUnique := ((Json.uniqueKeys_obj_iff members).mp unique).1
    have sorted := (Json.ascending_sortedMembers members).nodup_keys
    have text : ∀ name v, Assoc.get? name members = some v → OrderFree Json.text? id v :=
      fun _ v _ => orderFree_text v
    rw [OrderFree, Json.canonical_obj, CommentTag.ofJson?_obj, CommentTag.ofJson?_obj,
      if_pos (distinct_of_nodup _ _ keysUnique), if_pos (distinct_of_nodup _ _ sorted),
      readRequired_sortedMembers _ _ id members keysUnique (text _),
      readDefaulted_sortedMembers _ _ id members keysUnique (text _) _ rfl,
      readNullable_sortedMembers _ _ id members keysUnique (text _)]
    simp
  | arr items => simpa [OrderFree] using CommentTag.ofJson?_canonical_arr items
  | null | bool | num | str => rfl

/-! ### Records -/

section Record

variable (members : Assoc Json) (unique : (Json.obj members).uniqueKeys = true)

include unique

/-- The tag of an object is found in any order of members. -/
theorem classify_sortedMembers : Tag.classify (.obj (sortedMembers members)) =
    Tag.classify (.obj members) := by
  have keysUnique := ((Json.uniqueKeys_obj_iff members).mp unique).1
  have text := readRequired_sortedMembers "type" _ id members keysUnique fun v _ => orderFree_text v
  simp only [readRequired, Option.map_id_fun, id_eq] at text
  simp [Tag.classify, Tag.textIn?, Json.field?, text]

theorem orderFree_commentMembers :
    OrderFree Comment.ofJson? Comment.canonical (.obj members) := by
  obtain ⟨keysUnique, values⟩ := (Json.uniqueKeys_obj_iff members).mp unique
  have sorted := (Json.ascending_sortedMembers members).nodup_keys
  have text : ∀ name v, Assoc.get? name members = some v → OrderFree Json.text? id v :=
    fun _ v _ => orderFree_text v
  have tags : ∀ v, Assoc.get? "tags" members = some v →
      OrderFree (readList CommentTag.ofJson?) (List.map id) v := by
    intro v found
    exact orderFree_list _ id v (values _ v (Assoc.mem_of_get? _ _ _ found))
      fun item _ unique => orderFree_commentTag item unique
  rw [OrderFree, Json.canonical_obj, Comment.ofJson?_obj, Comment.ofJson?_obj,
    if_pos (distinct_of_nodup _ _ keysUnique), if_pos (distinct_of_nodup _ _ sorted),
    readNullable_sortedMembers "shortText" _ id members keysUnique (text _),
    readNullable_sortedMembers "text" _ id members keysUnique (text _),
    readNullable_sortedMembers "returns" _ id members keysUnique (text _),
    readDefaulted_sortedMembers "tags" _ _ members keysUnique tags _ rfl,
    others_sortedMembers _ members keysUnique]
  refine bind_orderFree _ _ _ _ _ fun shortText => ?_
  refine bind_orderFree _ _ _ _ _ fun text => ?_
  refine bind_orderFree _ _ _ _ _ fun returns => ?_
  refine bind_orderFree _ _ _ _ _ fun tags => ?_
  simp [Comment.canonical]

theorem orderFree_typeParameterMembers :
    OrderFree TypeParameter.ofJson? TypeParameter.canonical (.obj members) := by
  have keysUnique := ((Json.uniqueKeys_obj_iff members).mp unique).1
  have sorted := (Json.ascending_sortedMembers members).nodup_keys
  rw [OrderFree, Json.canonical_obj, TypeParameter.ofJson?_obj, TypeParameter.ofJson?_obj,
    if_pos (distinct_of_nodup _ _ keysUnique), if_pos (distinct_of_nodup _ _ sorted),
    readRequired_sortedMembers _ _ id members keysUnique fun v _ => orderFree_text v,
    others_sortedMembers _ members keysUnique]
  exact bind_orderFree _ _ _ _ _ fun name => rfl

end Record

theorem orderFree_comment (v : Json) (unique : v.uniqueKeys = true) :
    OrderFree Comment.ofJson? Comment.canonical v := by
  cases v with
  | obj members => exact orderFree_commentMembers members unique
  | null | bool | num | str | arr => rfl

theorem orderFree_typeParameter (v : Json) (unique : v.uniqueKeys = true) :
    OrderFree TypeParameter.ofJson? TypeParameter.canonical v := by
  cases v with
  | obj members => exact orderFree_typeParameterMembers members unique
  | null | bool | num | str | arr => rfl

/-- What is read from the canonical form of a value, as any of the four, is the canonical form of
what is read from the value. -/
structure ReadsOrderFree (v : Json) : Prop where
  type : OrderFree Descriptor.ofJson? Descriptor.canonical v
  declaration : OrderFree Declaration.ofJson? Declaration.canonical v
  signature : OrderFree Signature.ofJson? Signature.canonical v
  parameter : OrderFree Parameter.ofJson? Parameter.canonical v

theorem orderFree_oneOrMany (v : Json) (whole : OrderFree Signature.ofJson? Signature.canonical v)
    (items : OrderFree (readList Signature.ofJson?) (List.map Signature.canonical) v) :
    OrderFree Signature.oneOrManyOfJson? OneOrMany.canonical v := by
  cases v with
  | arr vs =>
    simp only [OrderFree, Json.canonical_arr, readList] at items
    simp [OrderFree, Signature.oneOrManyOfJson?, items, Option.map_map, Function.comp_def,
      OneOrMany.canonical]
  | obj members =>
    simp only [OrderFree, Json.canonical_obj] at whole
    simp [OrderFree, Signature.oneOrManyOfJson?, whole, Option.map_map, Function.comp_def,
      OneOrMany.canonical]
  | null | bool | num | str => rfl

section Recursive

variable (members : Assoc Json) (unique : (Json.obj members).uniqueKeys = true)
  (parts : ∀ part, sizeOf part < sizeOf (Json.obj members) → part.uniqueKeys = true →
    ReadsOrderFree part)

/-- A list under a name is read in any order of members if its items are. -/
theorem orderFree_listAt {α : Type} (read : Json → Option α) (f : α → α)
    (unique : (Json.obj members).uniqueKeys = true)
    (items : ∀ item, sizeOf item < sizeOf (Json.obj members) → item.uniqueKeys = true →
      OrderFree read f item)
    (name : String) (v : Json) (found : Assoc.get? name members = some v) :
    OrderFree (readList read) (List.map f) v := by
  have inside := Assoc.mem_of_get? name members v found
  refine orderFree_list read f v (((Json.uniqueKeys_obj_iff members).mp unique).2 _ v inside) ?_
  exact fun item small => items item (small.trans (Json.sizeOf_member name v members inside))

include unique parts

theorem readsOrderFreeAt (name : String) (v : Json) (found : Assoc.get? name members = some v) :
    ReadsOrderFree v := by
  have inside := Assoc.mem_of_get? name members v found
  exact parts v (Json.sizeOf_member name v members inside)
    (((Json.uniqueKeys_obj_iff members).mp unique).2 name v inside)

theorem payload?_sortedMembers (tag : Tag) :
    Descriptor.payload? tag (sortedMembers members) =
      (Descriptor.payload? tag members).map Descriptor.canonical := by
  have keysUnique := ((Json.uniqueKeys_obj_iff members).mp unique).1
  have text := fun name => readRequired_sortedMembers name _ id members keysUnique
    fun v _ => orderFree_text v
  have nullableText := fun name => readNullable_sortedMembers name _ id members keysUnique
    fun v _ => orderFree_text v
  have defaultedText := fun name => readDefaulted_sortedMembers name _ id members keysUnique
    (fun v _ => orderFree_text v) "" rfl
  have asserts := readDefaulted_sortedMembers "asserts" _ id members keysUnique
    (fun v _ => orderFree_flag v) false rfl
  have identifier := readNullable_sortedMembers "id" _ id members keysUnique
    fun v _ => orderFree_id v
  have value := readDefaulted_sortedMembers "value" _ id members keysUnique
    (fun v found => orderFree_literal v
      (((Json.uniqueKeys_obj_iff members).mp unique).2 _ v (Assoc.mem_of_get? _ members v found)))
    .null rfl
  have typed := fun name v found => (readsOrderFreeAt members unique parts name v found).type
  have type := fun name => readRequired_sortedMembers name _ _ members keysUnique (typed name)
  have nullableType := fun name =>
    readNullable_sortedMembers name _ _ members keysUnique (typed name)
  have listed := orderFree_listAt members _ _ unique fun part small unique =>
    (parts part small unique).type
  have types := fun name =>
    readDefaulted_sortedMembers name _ _ members keysUnique (listed name) [] rfl
  have nullableTypes := fun name =>
    readNullable_sortedMembers name _ _ members keysUnique (listed name)
  have declaration := readNullable_sortedMembers "declaration" _ _ members keysUnique
    fun v found => (readsOrderFreeAt members unique parts _ v found).declaration
  have extra : Descriptor.othersOf tag (sortedMembers members) =
      sortedMembers (Descriptor.othersOf tag members) := others_sortedMembers _ members keysUnique
  cases tag <;>
    simp only [Descriptor.payload?, Option.bind_eq_bind, text, nullableText, defaultedText, asserts,
      identifier, value, type, nullableType, types, nullableTypes, declaration, extra]
  all_goals repeat refine bind_orderFree _ _ _ _ _ fun _ => ?_
  all_goals simp [Descriptor.canonical]

theorem orderFree_descriptor :
    OrderFree Descriptor.ofJson? Descriptor.canonical (.obj members) := by
  have keysUnique := ((Json.uniqueKeys_obj_iff members).mp unique).1
  have sorted := (Json.ascending_sortedMembers members).nodup_keys
  rw [OrderFree, Json.canonical_obj, Descriptor.ofJson?, Descriptor.ofJson?,
    Descriptor.ofJson_obj, Descriptor.ofJson_obj, classify_sortedMembers members unique]
  cases Tag.classify (.obj members) with
  | none => simp [Descriptor.canonical]
  | some tag =>
    simp only [Option.bind_some, distinct_of_nodup _ _ keysUnique, distinct_of_nodup _ _ sorted,
      if_true, payload?_sortedMembers members unique parts tag]
    cases Descriptor.payload? tag members <;> simp [Descriptor.canonical]

theorem orderFree_parameter :
    OrderFree Parameter.ofJson? Parameter.canonical (.obj members) := by
  obtain ⟨keysUnique, values⟩ := (Json.uniqueKeys_obj_iff members).mp unique
  have sorted := (Json.ascending_sortedMembers members).nodup_keys
  have text : ∀ name v, Assoc.get? name members = some v → OrderFree Json.text? id v :=
    fun _ v _ => orderFree_text v
  rw [OrderFree, Json.canonical_obj, Parameter.ofJson?_obj, Parameter.ofJson?_obj,
    if_pos (distinct_of_nodup _ _ keysUnique), if_pos (distinct_of_nodup _ _ sorted),
    readNullable_sortedMembers "id" _ id members keysUnique fun v _ => orderFree_id v,
    readRequired_sortedMembers "name" _ id members keysUnique (text _),
    readNullable_sortedMembers "type" _ _ members keysUnique fun v found =>
      (readsOrderFreeAt members unique parts _ v found).type,
    readNullable_sortedMembers "defaultValue" _ id members keysUnique (text _),
    readNullable_sortedMembers "comment" _ _ members keysUnique fun v found =>
      orderFree_comment v (values _ v (Assoc.mem_of_get? _ members v found)),
    others_sortedMembers _ members keysUnique]
  refine bind_orderFree _ _ _ _ _ fun id => ?_
  refine bind_orderFree _ _ _ _ _ fun name => ?_
  refine bind_orderFree _ _ _ _ _ fun type => ?_
  refine bind_orderFree _ _ _ _ _ fun defaultValue => ?_
  refine bind_orderFree _ _ _ _ _ fun comment => ?_
  simp [Parameter.canonical_eq]

theorem orderFree_signature :
    OrderFree Signature.ofJson? Signature.canonical (.obj members) := by
  obtain ⟨keysUnique, values⟩ := (Json.uniqueKeys_obj_iff members).mp unique
  have sorted := (Json.ascending_sortedMembers members).nodup_keys
  have text : ∀ name v, Assoc.get? name members = some v → OrderFree Json.text? id v :=
    fun _ v _ => orderFree_text v
  have parameters := orderFree_listAt members Parameter.ofJson? _ unique fun part small unique =>
    (parts part small unique).parameter
  rw [OrderFree, Json.canonical_obj, Signature.ofJson?_obj, Signature.ofJson?_obj,
    if_pos (distinct_of_nodup _ _ keysUnique), if_pos (distinct_of_nodup _ _ sorted),
    readNullable_sortedMembers "id" _ id members keysUnique fun v _ => orderFree_id v,
    readRequired_sortedMembers "name" _ id members keysUnique (text _),
    readNullable_sortedMembers "kind" _ id members keysUnique fun v _ => orderFree_rawKind v,
    readNullable_sortedMembers "kindString" _ id members keysUnique (text _),
    readNullable_sortedMembers "comment" _ _ members keysUnique fun v found =>
      orderFree_comment v (values _ v (Assoc.mem_of_get? _ members v found)),
    readNullable_sortedMembers "parameters" _ _ members keysUnique (parameters _),
    readNullable_sortedMembers "type" _ _ members keysUnique fun v found =>
      (readsOrderFreeAt members unique parts _ v found).type,
    others_sortedMembers _ members keysUnique]
  refine bind_orderFree _ _ _ _ _ fun id => ?_
  refine bind_orderFree _ _ _ _ _ fun name => ?_
  refine bind_orderFree _ _ _ _ _ fun kind => ?_
  refine bind_orderFree _ _ _ _ _ fun kindString => ?_
  refine bind_orderFree _ _ _ _ _ fun comment => ?_
  refine bind_orderFree _ _ _ _ _ fun parameters => ?_
  refine bind_orderFree _ _ _ _ _ fun type => ?_
  simp [Signature.canonical_eq]

theorem orderFree_declaration :
    OrderFree Declaration.ofJson? Declaration.canonical (.obj members) := by
  obtain ⟨keysUnique, values⟩ := (Json.uniqueKeys_obj_iff members).mp unique
  have sorted := (Json.ascending_sortedMembers members).nodup_keys
  have text : ∀ name v, Assoc.get? name members = some v → OrderFree Json.text? id v :=
    fun _ v _ => orderFree_text v
  have signatures := orderFree_listAt members Signature.ofJson? _ unique fun part small unique =>
    (parts part small unique).signature
  have children := orderFree_listAt members Declaration.ofJson? _ unique fun part small unique =>
    (parts part small unique).declaration
  have generics := orderFree_listAt members TypeParameter.ofJson? _ unique fun part _ unique =>
    orderFree_typeParameter part unique
  have accessor : ∀ name v, Assoc.get? name members = some v →
      OrderFree Signature.oneOrManyOfJson? OneOrMany.canonical v := fun name v found =>
    orderFree_oneOrMany v (readsOrderFreeAt members unique parts name v found).signature
      (signatures name v found)
  rw [OrderFree, Json.canonical_obj, Declaration.ofJson?_obj, Declaration.ofJson?_obj,
    if_pos (distinct_of_nodup _ _ keysUnique), if_pos (distinct_of_nodup _ _ sorted),
    readNullable_sortedMembers "id" _ id members keysUnique fun v _ => orderFree_id v,
    readRequired_sortedMembers "name" _ id members keysUnique (text _),
    readNullable_sortedMembers "kind" _ id members keysUnique fun v _ => orderFree_rawKind v,
    readNullable_sortedMembers "kindString" _ id members keysUnique (text _),
    readNullable_sortedMembers "comment" _ _ members keysUnique fun v found =>
      orderFree_comment v (values _ v (Assoc.mem_of_get? _ members v found)),
    readNullable_sortedMembers "children" _ _ members keysUnique (children _),
    readNullable_sortedMembers "signatures" _ _ members keysUnique (signatures _),
    readNullable_sortedMembers "getSignature" _ _ members keysUnique (accessor _),
    readNullable_sortedMembers "setSignature" _ _ members keysUnique (accessor _),
    readNullable_sortedMembers "type" _ _ members keysUnique fun v found =>
      (readsOrderFreeAt members unique parts _ v found).type,
    readNullable_sortedMembers "typeParameter" _ _ members keysUnique (generics _),
    readNullable_sortedMembers "typeParameters" _ _ members keysUnique (generics _),
    readNullable_sortedMembers "defaultValue" _ id members keysUnique (text _),
    others_sortedMembers _ members keysUnique]
  refine bind_orderFree _ _ _ _ _ fun id => ?_
  refine bind_orderFree _ _ _ _ _ fun name => ?_
  refine bind_orderFree _ _ _ _ _ fun kind => ?_
  refine bind_orderFree _ _ _ _ _ fun kindString => ?_
  refine bind_orderFree _ _ _ _ _ fun comment => ?_
  refine bind_orderFree _ _ _ _ _ fun children => ?_
  refine bind_orderFree _ _ _ _ _ fun signatures => ?_
  refine bind_orderFree _ _ _ _ _ fun getSignature => ?_
  refine bind_orderFree _ _ _ _ _ fun setSignature => ?_
  refine bind_orderFree _ _ _ _ _ fun type => ?_
  refine bind_orderFree _ _ _ _ _ fun typeParameter => ?_
  refine bind_orderFree _ _ _ _ _ fun typeParameters => ?_
  refine bind_orderFree _ _ _ _ _ fun defaultValue => ?_
  simp [Declaration.canonical_eq]

end Recursive

/-- Reading and sorting commute on values without repeated keys. -/
theorem readsOrderFree (v : Json) (unique : v.uniqueKeys = true) : ReadsOrderFree v := by
  induction v using Json.induction_on_parts with
  | step v parts =>
    cases v with
    | obj members =>
      exact ⟨orderFree_descriptor members unique parts, orderFree_declaration members unique parts,
        orderFree_signature members unique parts, orderFree_parameter members unique parts⟩
    | null | bool | num | str | arr =>
      refine ⟨?_, rfl, rfl, rfl⟩
      simp [OrderFree, Descriptor.ofJson?, Descriptor.ofJson, Descriptor.canonical]

theorem Descriptor.ofJson_canonical (v : Json) (unique : v.uniqueKeys = true) :
    Descriptor.ofJson v.canonical = (Descriptor.ofJson v).canonical :=
  Option.some.inj (readsOrderFree v unique).type

theorem Declaration.ofJson?_canonical (v : Json) (unique : v.uniqueKeys = true) :
    Declaration.ofJson? v.canonical = (Declaration.ofJson? v).map Declaration.canonical :=
  (readsOrderFree v unique).declaration

end TsWorkshop
