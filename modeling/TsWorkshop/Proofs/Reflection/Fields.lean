import Mathlib.Data.List.Forall2
import TsWorkshop.Reflection.Decode
import TsWorkshop.Reflection.Encode
import TsWorkshop.Proofs.Assoc

/-!
Fields of a record, read and written. A field is required, nullable or defaulted; each way of
reading it looks only at the member with its name. A record is written as its fields, then the
members that have no field, and `Apart` is what these satisfy: no repeated key, no key of a field.
-/

namespace TsWorkshop

namespace Fields

variable {α β : Type}

/-! ### Reading one field -/

/-- A field that must be there. -/
def readRequired (name : String) (read : Json → Option α) (members : Assoc Json) : Option α :=
  (Assoc.get? name members).bind read

/-- A field that may be absent or `null`. -/
def readNullable (name : String) (read : Json → Option α) (members : Assoc Json) :
    Option (Option α) :=
  nullable name members (readRequired name read members)

/-- A field that may be absent, but not `null`. -/
def readDefaulted (name : String) (default : α) (read : Json → Option α) (members : Assoc Json) :
    Option α :=
  defaulted name members default (readRequired name read members)

/-- A list whose items are read one by one. -/
def readList (read : Json → Option α) : Json → Option (List α)
  | .arr items => items.mapM read
  | _ => none

theorem readRequired_eq_some_iff (name : String) (read : Json → Option α) (members : Assoc Json)
    (a : α) : readRequired name read members = some a ↔
      ∃ v, Assoc.get? name members = some v ∧ read v = some a :=
  Option.bind_eq_some_iff

/-- A nullable field reads as absent, or as the value of a member that is not `null`. -/
theorem readNullable_eq_some_iff (name : String) (read : Json → Option α) (members : Assoc Json)
    (a : Option α) : readNullable name read members = some a ↔
      (a = none ∧ (Assoc.get? name members = none ∨ Assoc.get? name members = some .null)) ∨
      ∃ v b, Assoc.get? name members = some v ∧ v ≠ .null ∧ read v = some b ∧ a = some b := by
  unfold readNullable nullable readRequired
  cases found : Assoc.get? name members with
  | none => simp [eq_comm]
  | some v =>
    by_cases h : v = .null
    · subst h
      simp [eq_comm]
    · simp [h, Option.map_eq_some_iff, eq_comm]

theorem readDefaulted_eq_some_iff (name : String) (default : α) (read : Json → Option α)
    (members : Assoc Json) (a : α) : readDefaulted name default read members = some a ↔
      (Assoc.get? name members = none ∧ a = default) ∨
      ∃ v, Assoc.get? name members = some v ∧ read v = some a := by
  unfold readDefaulted defaulted readRequired
  cases found : Assoc.get? name members <;> simp [eq_comm]

/-- A list is read item by item, all or nothing. -/
theorem mapM_eq_some_iff (read : Json → Option α) (items : List Json) (values : List α) :
    items.mapM read = some values ↔ List.Forall₂ (fun v a => read v = some a) items values := by
  induction items generalizing values with
  | nil => simp [eq_comm]
  | cons item rest ih =>
    simp only [List.mapM_cons, Option.bind_eq_bind, Option.bind_eq_some_iff, ih,
      Option.pure_def, Option.some.injEq, List.forall₂_cons_left_iff]
    constructor
    · rintro ⟨a, first, as, others, rfl⟩
      exact ⟨a, as, first, others, rfl⟩
    · rintro ⟨a, as, first, others, rfl⟩
      exact ⟨a, first, as, others, rfl⟩

theorem readList_eq_some_iff (read : Json → Option α) (v : Json) (values : List α) :
    readList read v = some values ↔
      ∃ items, v = .arr items ∧ List.Forall₂ (fun v a => read v = some a) items values := by
  cases v <;> simp [readList, mapM_eq_some_iff]

/-! ### Members without a field -/

theorem others_eq (known : List String) (members : Assoc Json) :
    others known members = Assoc.merged (members.filter fun member => !known.contains member.1) :=
  rfl

/-- Members that a record with the fields `known` keeps beside them. -/
structure Apart (known : List String) (extra : Extra) : Prop where
  unique : (Assoc.keys extra).Nodup
  fresh : ∀ name ∈ known, name ∉ Assoc.keys extra

theorem Apart.get?_eq_none (known : List String) (extra : Extra) (h : Apart known extra)
    (name : String) (field : name ∈ known) : Assoc.get? name extra = none :=
  (Assoc.get?_eq_none_iff name extra).mpr (h.fresh name field)

theorem apart_others (known : List String) (members : Assoc Json) :
    Apart known (others known members) := by
  obtain ⟨unique, origin⟩ :=
    Assoc.keys_merged (members.filter fun member => !known.contains member.1)
  refine ⟨unique, fun name field member => ?_⟩
  obtain ⟨entry, inside, rfl⟩ := List.mem_map.mp (origin name member)
  simp [field] at inside

/-- Without repeated keys the members without a field are found under their keys. -/
theorem get?_others (known : List String) (members : Assoc Json)
    (unique : (Assoc.keys members).Nodup) (name : String) (other : name ∉ known) :
    Assoc.get? name (others known members) = Assoc.get? name members := by
  have sublist : (Assoc.keys (members.filter fun member => !known.contains member.1)).Nodup :=
    unique.sublist (List.filter_sublist.map _)
  rw [others_eq, Assoc.merged_of_nodup _ sublist, Assoc.get?_filter fun key => !known.contains key]
  simp [other]

/-! ### Repeated fields -/

theorem distinct_iff (known : List String) (members : Assoc Json) :
    distinct known members = true ↔ ∀ name ∈ known, (Assoc.keys members).count name ≤ 1 := by
  simp [distinct, Assoc.count_eq_count_keys]

theorem distinct_of_nodup (known : List String) (members : Assoc Json)
    (unique : (Assoc.keys members).Nodup) : distinct known members = true :=
  (distinct_iff known members).mpr fun name _ => List.nodup_iff_count_le_one.mp unique name

/-! ### Writing a record -/

/-- A record: its fields in order, absent ones left out, then the members without a field. -/
def written (fields : List (String × Option Json)) (extra : Extra) : Assoc Json :=
  fields.flatMap (fun field => optionalMember field.1 field.2) ++ extra

theorem get?_optionalMember (name key : String) (value : Option Json) :
    Assoc.get? name (optionalMember key value) = if key = name then value else none := by
  cases value <;> simp [optionalMember, Assoc.get?_cons]

theorem keys_optionalMember_subset (key : String) (value : Option Json) :
    List.Sublist (Assoc.keys (optionalMember key value)) [key] := by
  cases value <;> simp [optionalMember]

section Written

variable (fields : List (String × Option Json)) (extra : Extra)

theorem get?_written_of_not_mem (name : String) (h : name ∉ fields.map Prod.fst) :
    Assoc.get? name (written fields extra) = Assoc.get? name extra := by
  unfold written
  induction fields with
  | nil => rfl
  | cons field rest ih =>
    obtain ⟨key, value⟩ := field
    simp only [List.map_cons, List.mem_cons, not_or] at h
    simp only [List.flatMap_cons, List.append_assoc, Assoc.get?_append name,
      get?_optionalMember, if_neg (Ne.symm h.1), Option.none_or]
    simpa [Assoc.get?_append] using ih h.2

/-- Each field of a written record is found under its name, if it is there. -/
theorem get?_written (names : (fields.map Prod.fst).Nodup) (name : String) (value : Option Json)
    (h : (name, value) ∈ fields) (absent : Assoc.get? name extra = none) :
    Assoc.get? name (written fields extra) = value := by
  induction fields with
  | nil => simp at h
  | cons field rest ih =>
    obtain ⟨key, first⟩ := field
    obtain ⟨fresh, names⟩ := List.nodup_cons.mp names
    have split : Assoc.get? name (written ((key, first) :: rest) extra) =
        (if key = name then first else none).or (Assoc.get? name (written rest extra)) := by
      simp [written, Assoc.get?_append, get?_optionalMember]
    rw [split]
    rcases List.mem_cons.mp h with here | later
    · obtain ⟨rfl, rfl⟩ := Prod.mk.inj here
      rw [get?_written_of_not_mem rest extra name fresh, absent]
      simp
    · have different : key ≠ name := by
        rintro rfl
        exact fresh (List.mem_map.mpr ⟨_, later, rfl⟩)
      simp [different, ih names later]

theorem mem_keys_fields (name : String)
    (h : name ∈ Assoc.keys (fields.flatMap fun field => optionalMember field.1 field.2)) :
    name ∈ fields.map Prod.fst := by
  obtain ⟨entry, member, rfl⟩ := List.mem_map.mp h
  obtain ⟨⟨key, value⟩, field, here⟩ := List.mem_flatMap.mp member
  have := (keys_optionalMember_subset key value).subset (List.mem_map_of_mem here)
  rw [List.mem_singleton.mp this]
  exact List.mem_map_of_mem field

theorem nodup_keys_written (names : (fields.map Prod.fst).Nodup)
    (apart : Apart (fields.map Prod.fst) extra) : (Assoc.keys (written fields extra)).Nodup := by
  have inFields : List.Sublist
      (Assoc.keys (fields.flatMap fun field => optionalMember field.1 field.2))
      (fields.map Prod.fst) := by
    clear names apart
    induction fields with
    | nil => simp
    | cons field rest ih =>
      obtain ⟨key, value⟩ := field
      simpa using (keys_optionalMember_subset key value).append ih
  rw [written, Assoc.keys_append]
  refine List.nodup_append.mpr ⟨names.sublist inFields, apart.unique, ?_⟩
  rintro name field other member rfl
  exact apart.fresh name (mem_keys_fields fields name field) member

/-- The members without a field are read back as they were written. -/
theorem others_written (apart : Apart (fields.map Prod.fst) extra) :
    others (fields.map Prod.fst) (written fields extra) = extra := by
  have dropped : (fields.flatMap fun field => optionalMember field.1 field.2).filter
      (fun member => !(fields.map Prod.fst).contains member.1) = [] := by
    refine List.filter_eq_nil_iff.mpr fun entry member => ?_
    have := mem_keys_fields fields entry.1 (List.mem_map_of_mem member)
    simpa using this
  have kept : extra.filter (fun member => !(fields.map Prod.fst).contains member.1) = extra := by
    refine List.filter_eq_self.mpr fun entry member => ?_
    have := fun field => apart.fresh entry.1 field (List.mem_map_of_mem member)
    simpa using this
  rw [others_eq, written, List.filter_append, dropped, kept, List.nil_append]
  exact Assoc.merged_of_nodup extra apart.unique

end Written

end Fields

end TsWorkshop
