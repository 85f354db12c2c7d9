import TsWorkshop.Proofs.Reflection.Kept
import TsWorkshop.Proofs.Reflection.Fields

/-!
One field at a time: what is read from a field and written again. `WrittenBack` collects what holds
of a value, of what was read from it, and of the value written for that: it reads the same again,
nothing is lost in it, and it has no repeated key. A record is written back if its fields are.
-/

namespace TsWorkshop

open Fields

variable {α : Type}

/-- `w` is written for `a`, which was read from `v`. -/
structure WrittenBack (role : Role) (read : Json → Option α) (v w : Json) (a : α) : Prop where
  reread : read w = some a
  kept : v.uniqueKeys = true → Kept role v w
  unique : v.uniqueKeys = true → w.uniqueKeys = true
  null : w = .null → v = .null

/-- Whatever is read from `v` is written back. -/
def Faithful (role : Role) (read : Json → Option α) (write : α → Json) (v : Json) : Prop :=
  ∀ a, read v = some a → WrittenBack role read v (write a) a

/-- A value that is written as it stands is written back. -/
theorem WrittenBack.same (role : Role) (read : Json → Option α) (v : Json) (a : α)
    (h : read v = some a) : WrittenBack role read v v a :=
  ⟨h, fun _ => Kept.refl role v, id, id⟩

/-! ### Values without parts -/

theorem faithful_text (v : Json) : Faithful .plain Json.text? .str v := by
  intro s h
  cases v <;> simp only [Json.text?, reduceCtorEq, Option.some.injEq] at h
  subst h
  exact WrittenBack.same _ _ _ _ rfl

theorem faithful_flag (v : Json) : Faithful .plain Json.flag? .bool v := by
  intro b h
  cases v <;> simp only [Json.flag?, reduceCtorEq, Option.some.injEq] at h
  subst h
  exact WrittenBack.same _ _ _ _ rfl

theorem faithful_id (v : Json) : Faithful .plain int64? (fun n => .ofInt n.toInt) v := by
  intro n h
  obtain ⟨i, range, rfl⟩ := Option.map_eq_some_iff.mp h
  cases v with
  | num number =>
    cases number with
    | whole k =>
      rw [Json.whole?, Option.ite_none_right_eq_some, Option.some.injEq] at range
      obtain ⟨⟨low, high⟩, rfl⟩ := range
      unfold Word.signedMin at low
      unfold Word.signedMax at high
      have back : (Int64.ofInt k).toInt = k := Int64.toInt_ofInt_of_le (by omega) (by omega)
      simp only [Json.ofInt, back]
      exact WrittenBack.same _ _ _ _ h
    | float x => cases range
  | null | bool | str | arr | obj => cases range

theorem faithful_rawKind (v : Json) : Faithful .plain RawKind.ofJson? RawKind.toJson v := by
  intro kind h
  cases v with
  | num number =>
    cases number with
    | whole k =>
      have range := h
      rw [RawKind.ofJson?, Option.ite_none_right_eq_some, Option.some.injEq] at range
      obtain ⟨⟨low, high⟩, rfl⟩ := range
      unfold Word.unsignedMax32 at high
      have small : k.toNat < 2 ^ 32 := by omega
      have back : ((k.toNat.toUInt32).toNat : Int) = k := by
        rw [Nat.toUInt32_eq, UInt32.toNat_ofNat_of_lt' small]
        omega
      simp only [RawKind.toJson, Json.ofInt, back]
      exact WrittenBack.same _ _ _ _ h
    | float x => cases h
  | str s =>
    cases h
    exact WrittenBack.same _ _ _ _ rfl
  | null | bool | arr | obj => cases h

theorem faithful_literal (v : Json) : Faithful .literal Literal.ofJson? Literal.toJson v := by
  intro literal h
  cases v with
  | obj members =>
    have spelled := h
    rw [Literal.ofJson?, Option.ite_none_right_eq_some] at h
    simp only [Option.bind_eq_bind, Option.bind_eq_some_iff, Option.pure_def,
      Option.some.injEq] at h
    obtain ⟨-, digits, -, negative, -, rfl⟩ := h
    refine ⟨rfl, fun _ => Kept.bigint _ _ _ _ spelled, fun _ => ?_, fun null => by cases null⟩
    simp [Literal.toJson, Json.uniqueKeys, Json.uniqueKeysMembers]
  | arr items => cases h
  | null | bool | num | str =>
    cases h
    exact WrittenBack.same _ _ _ _ rfl

/-! ### Lists -/

theorem faithful_list (role : Role) (read : Json → Option α) (write : α → Json) (v : Json)
    (h : ∀ item, sizeOf item < sizeOf v → Faithful role read write item) :
    Faithful role (readList read) (fun as => .arr (as.map write)) v := by
  intro values hread
  obtain ⟨items, rfl, each⟩ := (readList_eq_some_iff read v values).mp hread
  have back : List.Forall₂ (fun v a => WrittenBack role read v (write a) a) items values := by
    have parts : ∀ item ∈ items, Faithful role read write item := fun item member =>
      h item (Json.sizeOf_item item items member)
    exact ((List.forall₂_and_left _ _).mpr ⟨parts, each⟩).imp fun v a item => item.1 a item.2
  have origin : ∀ a ∈ values, ∃ v ∈ items, WrittenBack role read v (write a) a := by
    intro a member
    obtain ⟨i, inside, rfl⟩ := List.getElem_of_mem member
    have here : i < items.length := back.length_eq ▸ inside
    exact ⟨items[i], List.getElem_mem here, back.get here inside⟩
  refine ⟨?_, fun unique => ?_, fun unique => ?_, fun null => by cases null⟩
  · refine (readList_eq_some_iff read _ values).mpr ⟨_, rfl, ?_⟩
    rw [List.forall₂_map_left_iff, List.forall₂_same]
    intro a member
    obtain ⟨v, -, item⟩ := origin a member
    exact item.reread
  · rw [Json.uniqueKeys_arr_iff] at unique
    refine Kept.arr role items _ (by simp [back.length_eq]) fun i v w found written => ?_
    rw [List.getElem?_map] at written
    obtain ⟨a, value, rfl⟩ := Option.map_eq_some_iff.mp written
    obtain ⟨here, rfl⟩ := List.getElem?_eq_some_iff.mp found
    obtain ⟨there, rfl⟩ := List.getElem?_eq_some_iff.mp value
    exact (back.get here there).kept (unique _ (List.getElem_mem here))
  · rw [Json.uniqueKeys_arr_iff] at unique ⊢
    intro w written
    obtain ⟨a, member, rfl⟩ := List.mem_map.mp written
    obtain ⟨v, inside, item⟩ := origin a member
    exact item.unique (unique v inside)

/-! ### Fields -/

/-- What a field was read from is kept in what is written for it. -/
structure Carried (role : Role) (name : String) (before after : Option Json) : Prop where
  present : ∀ v, before = some v → v ≠ .null → ∃ w, after = some w
  same : ∀ v w, before = some v → after = some w → Kept role v w
  added : ∀ w, before = none → after = some w → (name, w) ∈ absentFields

/-- `value` is written for the field `name`, which was read as `a`. -/
structure FieldWritten (role : Role) (name : String) (members : Assoc Json)
    (read : Assoc Json → Option α) (value : Option Json) (a : α) : Prop where
  reread : ∀ ws, Assoc.get? name ws = value → read ws = some a
  carried : (∀ v, Assoc.get? name members = some v → v.uniqueKeys = true) →
    Carried role name (Assoc.get? name members) value
  unique : (∀ v, Assoc.get? name members = some v → v.uniqueKeys = true) →
    ∀ w, value = some w → w.uniqueKeys = true

section Field

variable (role : Role) (name : String) (read : Json → Option α) (write : α → Json)
  (members : Assoc Json)
  (parts : ∀ v, Assoc.get? name members = some v → Faithful role read write v)

include parts

theorem FieldWritten.required (a : α) (h : readRequired name read members = some a) :
    FieldWritten role name members (readRequired name read) (some (write a)) a := by
  obtain ⟨v, found, hread⟩ := (readRequired_eq_some_iff name read members a).mp h
  have back := parts v found a hread
  refine ⟨fun ws there => ?_, fun unique => ⟨?_, ?_, ?_⟩, fun unique w written => ?_⟩
  · exact (readRequired_eq_some_iff name read ws a).mpr ⟨_, there, back.reread⟩
  · exact fun _ _ _ => ⟨_, rfl⟩
  · intro v' w found' written
    obtain rfl : v = v' := Option.some.inj (found.symm.trans found')
    cases written
    exact back.kept (unique v found)
  · intro w missing
    rw [found] at missing
    cases missing
  · cases written
    exact back.unique (unique v found)

theorem FieldWritten.nullable (a : Option α) (h : readNullable name read members = some a) :
    FieldWritten role name members (readNullable name read) (a.map write) a := by
  rcases (readNullable_eq_some_iff name read members a).mp h with
    ⟨rfl, absent⟩ | ⟨v, b, found, nonnull, hread, rfl⟩
  · refine ⟨fun ws missing => ?_, fun _ => ⟨?_, ?_, ?_⟩, ?_⟩
    · exact (readNullable_eq_some_iff name read ws none).mpr (Or.inl ⟨rfl, Or.inl missing⟩)
    · intro v found nonnull
      rcases absent with missing | null
      · rw [missing] at found
        cases found
      · rw [null] at found
        exact absurd (Option.some.inj found).symm nonnull
    · exact fun _ _ _ written => nomatch written
    · exact fun _ _ written => nomatch written
    · exact fun _ _ written => nomatch written
  · have back := parts v found b hread
    have required := FieldWritten.required role name read write members parts b
      ((readRequired_eq_some_iff name read members b).mpr ⟨v, found, hread⟩)
    refine ⟨fun ws there => ?_, required.carried, required.unique⟩
    refine (readNullable_eq_some_iff name read ws (some b)).mpr (Or.inr ?_)
    exact ⟨_, b, there, fun null => nonnull (back.null null), back.reread, rfl⟩

theorem FieldWritten.defaulted (default a : α)
    (h : readDefaulted name default read members = some a)
    (again : read (write default) = some default) (unique : (write default).uniqueKeys = true)
    (listed : (name, write default) ∈ absentFields) :
    FieldWritten role name members (readDefaulted name default read) (some (write a)) a := by
  rcases (readDefaulted_eq_some_iff name default read members a).mp h with
    ⟨missing, rfl⟩ | ⟨v, found, hread⟩
  · refine ⟨fun ws there => ?_, fun _ => ⟨fun _ _ _ => ⟨_, rfl⟩, ?_, ?_⟩, ?_⟩
    · exact (readDefaulted_eq_some_iff name a read ws a).mpr (Or.inr ⟨_, there, again⟩)
    · intro v w found
      rw [missing] at found
      cases found
    · rintro w - written
      cases written
      exact listed
    · rintro - w written
      cases written
      exact unique
  · have required := FieldWritten.required role name read write members parts a
      ((readRequired_eq_some_iff name read members a).mpr ⟨v, found, hread⟩)
    refine ⟨fun ws there => ?_, required.carried, required.unique⟩
    obtain ⟨w, inside, back⟩ :=
      (readRequired_eq_some_iff name read ws a).mp (required.reread ws there)
    exact (readDefaulted_eq_some_iff name default read ws a).mpr (Or.inr ⟨w, inside, back⟩)

end Field

/-! ### Records -/

/-- `value` is written for the field `name` of an object with the given role, and nothing is lost
in it. -/
structure FieldKept (role : Role) (members : Assoc Json) (name : String) (value : Option Json) :
    Prop where
  carried : (∀ v, Assoc.get? name members = some v → v.uniqueKeys = true) →
    Carried (role.member (.obj members) name) name (Assoc.get? name members) value
  unique : (∀ v, Assoc.get? name members = some v → v.uniqueKeys = true) →
    ∀ w, value = some w → w.uniqueKeys = true

theorem FieldWritten.kept (role part : Role) (name : String) (members : Assoc Json)
    (read : Assoc Json → Option α) (value : Option Json) (a : α)
    (h : FieldWritten part name members read value a)
    (place : role.member (.obj members) name = part) : FieldKept role members name value :=
  ⟨place ▸ h.carried, h.unique⟩

section Record

variable (members : Assoc Json) (fields : List (String × Option Json))
  (nodup : (fields.map Prod.fst).Nodup)

/-- The object written for a record with these fields that was read from `members`. -/
def rewritten : Assoc Json := written fields (others (fields.map Prod.fst) members)

include nodup

theorem get?_rewritten (field : String × Option Json) (h : field ∈ fields) :
    Assoc.get? field.1 (rewritten members fields) = field.2 :=
  get?_written fields _ nodup field.1 field.2 h
    ((apart_others _ members).get?_eq_none _ _ field.1 (List.mem_map_of_mem h))

theorem nodup_keys_rewritten : (Assoc.keys (rewritten members fields)).Nodup :=
  nodup_keys_written fields _ nodup (apart_others _ members)

omit nodup in
theorem others_rewritten : others (fields.map Prod.fst) (rewritten members fields) =
    others (fields.map Prod.fst) members :=
  others_written fields _ (apart_others _ members)

omit nodup in
theorem get?_rewritten_of_not_mem (unique : (Assoc.keys members).Nodup) (name : String)
    (h : name ∉ fields.map Prod.fst) :
    Assoc.get? name (rewritten members fields) = Assoc.get? name members := by
  rw [rewritten, get?_written_of_not_mem fields _ name h, get?_others _ members unique name h]

/-- A record written again has no repeated key at any depth if none of its fields has. -/
theorem uniqueKeys_rewritten (unique : (Json.obj members).uniqueKeys = true)
    (parts : ∀ field ∈ fields, ∀ w, field.2 = some w → w.uniqueKeys = true) :
    (Json.obj (rewritten members fields)).uniqueKeys = true := by
  obtain ⟨keysUnique, before⟩ := (Json.uniqueKeys_obj_iff members).mp unique
  have after := nodup_keys_rewritten members fields nodup
  refine (Json.uniqueKeys_obj_iff _).mpr ⟨after, fun name w member => ?_⟩
  have here := Assoc.get?_of_mem _ after name w member
  by_cases field : name ∈ fields.map Prod.fst
  · obtain ⟨⟨name, value⟩, inside, rfl⟩ := List.mem_map.mp field
    rw [get?_rewritten members fields nodup _ inside] at here
    exact parts _ inside w here
  · rw [get?_rewritten_of_not_mem members fields keysUnique name field] at here
    exact before name w (Assoc.mem_of_get? name members w here)

/-- Nothing is lost in a record written again if nothing is lost in its fields. -/
theorem kept_rewritten (role : Role) (unique : (Assoc.keys members).Nodup)
    (carried : ∀ field ∈ fields, Carried (role.member (.obj members) field.1) field.1
      (Assoc.get? field.1 members) field.2) :
    Kept role (.obj members) (.obj (rewritten members fields)) := by
  have each : ∀ name, Carried (role.member (.obj members) name) name (Assoc.get? name members)
      (Assoc.get? name (rewritten members fields)) := by
    intro name
    by_cases field : name ∈ fields.map Prod.fst
    · obtain ⟨⟨name, value⟩, inside, rfl⟩ := List.mem_map.mp field
      rw [get?_rewritten members fields nodup _ inside]
      exact carried _ inside
    · rw [get?_rewritten_of_not_mem members fields unique name field]
      refine ⟨fun v here _ => ⟨v, here⟩, fun v w here there => ?_, fun w missing here => ?_⟩
      · obtain rfl : v = w := Option.some.inj (here.symm.trans there)
        exact Kept.refl _ v
      · rw [missing] at here
        cases here
  exact Kept.obj role members _ (fun name => (each name).present) (fun name => (each name).same)
    fun name => (each name).added

/-- A record is written back if each of its fields is, and if it reads the same again from any
object with these fields and these other members. -/
theorem writtenBack_record (role : Role) (read : Json → Option α) (a : α)
    (kept : ∀ field ∈ fields, FieldKept role members field.1 field.2)
    (reread : ∀ ws, (∀ field ∈ fields, Assoc.get? field.1 ws = field.2) →
      (Assoc.keys ws).Nodup →
      others (fields.map Prod.fst) ws = others (fields.map Prod.fst) members →
      read (.obj ws) = some a) :
    WrittenBack role read (.obj members) (.obj (rewritten members fields)) a := by
  have parts : (Json.obj members).uniqueKeys = true → ∀ name v,
      Assoc.get? name members = some v → v.uniqueKeys = true := by
    intro unique name v found
    exact ((Json.uniqueKeys_obj_iff members).mp unique).2 name v
      (Assoc.mem_of_get? name members v found)
  refine ⟨reread _ (get?_rewritten members fields nodup)
    (nodup_keys_rewritten members fields nodup) (others_rewritten members fields),
    fun unique => ?_, fun unique => ?_, fun null => by cases null⟩
  · exact kept_rewritten members fields nodup role ((Json.uniqueKeys_obj_iff members).mp unique).1
      fun field member => (kept field member).carried (parts unique field.1)
  · exact uniqueKeys_rewritten members fields nodup unique
      fun field member => (kept field member).unique (parts unique field.1)

end Record

end TsWorkshop
