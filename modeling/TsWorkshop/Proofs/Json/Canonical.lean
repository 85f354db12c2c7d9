import TsWorkshop.Json.Basic
import TsWorkshop.Proofs.Assoc

/-!
JSON values without repeated keys, and their canonical form. A value read for its content is
canonical; a value with unique keys is the same content as its canonical form, up to the order of
members. Main statements: the canonical form has unique keys, and is its own canonical form.
-/

namespace TsWorkshop.Json

mutual

/-- No object of the value has two members with one key. -/
def uniqueKeys : Json → Bool
  | arr items => uniqueKeysItems items
  | obj members => decide (Assoc.keys members).Nodup && uniqueKeysMembers members
  | null | bool _ | num _ | str _ => true

def uniqueKeysItems : List Json → Bool
  | [] => true
  | item :: rest => item.uniqueKeys && uniqueKeysItems rest

def uniqueKeysMembers : List (String × Json) → Bool
  | [] => true
  | (_, value) :: rest => value.uniqueKeys && uniqueKeysMembers rest

end

/-- Induction on a value: the parts of an array or an object come first. -/
theorem induction_on_parts {P : Json → Prop} (v : Json)
    (step : ∀ v, (∀ part, sizeOf part < sizeOf v → P part) → P v) : P v :=
  step v fun part _ => induction_on_parts part step
termination_by sizeOf v

theorem sizeOf_item (item : Json) (items : List Json) (h : item ∈ items) :
    sizeOf item < sizeOf (arr items) := by
  have := List.sizeOf_lt_of_mem h
  simp only [arr.sizeOf_spec]
  omega

theorem sizeOf_member (key : String) (value : Json) (members : Assoc Json)
    (h : (key, value) ∈ members) : sizeOf value < sizeOf (obj members) := by
  have := List.sizeOf_lt_of_mem h
  simp only [Prod.mk.sizeOf_spec] at this
  simp only [obj.sizeOf_spec]
  omega

/-! ### Unique keys -/

theorem uniqueKeysItems_iff (items : List Json) :
    uniqueKeysItems items = true ↔ ∀ item ∈ items, item.uniqueKeys = true := by
  induction items with
  | nil => simp [uniqueKeysItems]
  | cons item rest ih => simp [uniqueKeysItems, ih]

theorem uniqueKeysMembers_iff (members : Assoc Json) :
    uniqueKeysMembers members = true ↔
      ∀ key value, (key, value) ∈ members → value.uniqueKeys = true := by
  induction members with
  | nil => simp [uniqueKeysMembers]
  | cons member rest ih =>
    obtain ⟨key, value⟩ := member
    simp only [uniqueKeysMembers, Bool.and_eq_true, ih, List.mem_cons, Prod.mk.injEq]
    constructor
    · rintro ⟨first, others⟩ name part (⟨-, rfl⟩ | later)
      · exact first
      · exact others name part later
    · intro h
      exact ⟨h key value (Or.inl ⟨rfl, rfl⟩), fun name part later => h name part (Or.inr later)⟩

theorem uniqueKeys_arr_iff (items : List Json) :
    (arr items).uniqueKeys = true ↔ ∀ item ∈ items, item.uniqueKeys = true := by
  rw [uniqueKeys, uniqueKeysItems_iff]

theorem uniqueKeys_obj_iff (members : Assoc Json) :
    (obj members).uniqueKeys = true ↔
      (Assoc.keys members).Nodup ∧
        ∀ key value, (key, value) ∈ members → value.uniqueKeys = true := by
  rw [uniqueKeys, Bool.and_eq_true, decide_eq_true_iff, uniqueKeysMembers_iff]

/-! ### The canonical form -/

theorem canonicalItems_eq_map (items : List Json) : canonicalItems items = items.map canonical := by
  induction items with
  | nil => rfl
  | cons item rest ih => simp [canonicalItems, ih]

theorem canonicalMembers_eq_map (members : Assoc Json) :
    canonicalMembers members = members.map fun member => (member.1, member.2.canonical) := by
  induction members with
  | nil => rfl
  | cons member rest ih => simp [canonicalMembers, ih]

@[simp] theorem canonical_arr (items : List Json) :
    (arr items).canonical = arr (items.map canonical) := by
  rw [canonical, canonicalItems_eq_map]

@[simp] theorem canonical_null : null.canonical = null := rfl

@[simp] theorem canonical_bool (b : Bool) : (bool b).canonical = bool b := rfl

@[simp] theorem canonical_num (n : JsonNumber) : (num n).canonical = num n := rfl

@[simp] theorem canonical_str (s : String) : (str s).canonical = str s := rfl

/-- The members of the canonical form of an object. -/
def sortedMembers (members : Assoc Json) : Assoc Json := Assoc.sorted (canonicalMembers members)

@[simp] theorem canonical_obj (members : Assoc Json) :
    (obj members).canonical = obj (sortedMembers members) := by
  rw [canonical, sortedMembers]

@[simp] theorem keys_canonicalMembers (members : Assoc Json) :
    Assoc.keys (canonicalMembers members) = Assoc.keys members := by
  simp [canonicalMembers_eq_map, Assoc.keys, Function.comp_def]

theorem ascending_sortedMembers (members : Assoc Json) :
    Assoc.Ascending (sortedMembers members) :=
  Assoc.ascending_sorted _

/-- Without repeated keys a member of the canonical form is the canonical form of the member. -/
theorem get?_sortedMembers (name : String) (members : Assoc Json)
    (unique : (Assoc.keys members).Nodup) :
    Assoc.get? name (sortedMembers members) = (Assoc.get? name members).map canonical := by
  rw [sortedMembers, Assoc.get?_sorted _ _ (by simpa using unique), canonicalMembers_eq_map,
    Assoc.get?_map]

/-- Every part of the canonical form of an object is the canonical form of a part. -/
theorem mem_sortedMembers (key : String) (value : Json) (members : Assoc Json)
    (h : (key, value) ∈ sortedMembers members) :
    ∃ part, (key, part) ∈ members ∧ part.canonical = value := by
  have listed := Assoc.mem_of_mem_sorted _ _ h
  rw [canonicalMembers_eq_map] at listed
  obtain ⟨⟨name, part⟩, inside, equal⟩ := List.mem_map.mp listed
  obtain ⟨rfl, rfl⟩ := Prod.mk.inj equal
  exact ⟨part, inside, rfl⟩

theorem uniqueKeys_canonical (v : Json) : v.canonical.uniqueKeys = true := by
  induction v using induction_on_parts with
  | step v ih =>
    cases v with
    | arr items =>
      rw [canonical_arr, uniqueKeys_arr_iff]
      intro item member
      obtain ⟨part, inside, rfl⟩ := List.mem_map.mp member
      exact ih part (sizeOf_item part items inside)
    | obj members =>
      rw [canonical_obj, uniqueKeys_obj_iff]
      refine ⟨(ascending_sortedMembers members).nodup_keys, fun key value member => ?_⟩
      obtain ⟨part, inside, rfl⟩ := mem_sortedMembers key value members member
      exact ih part (sizeOf_member key part members inside)
    | null | bool | num | str => rfl

theorem canonical_canonical (v : Json) : v.canonical.canonical = v.canonical := by
  induction v using induction_on_parts with
  | step v ih =>
    cases v with
    | arr items =>
      simp only [canonical_arr, List.map_map, arr.injEq]
      exact List.map_congr_left fun part inside => ih part (sizeOf_item part items inside)
    | obj members =>
      simp only [canonical_obj, obj.injEq]
      have unique := (ascending_sortedMembers members).nodup_keys
      refine Assoc.eq_of_get?_eq _ _ (ascending_sortedMembers _) (ascending_sortedMembers _) ?_
      intro name
      rw [get?_sortedMembers _ _ unique]
      cases found : Assoc.get? name (sortedMembers members) with
      | none => rfl
      | some value =>
        obtain ⟨part, inside, rfl⟩ :=
          mem_sortedMembers name value members (Assoc.mem_of_get? _ _ _ found)
        simp [ih part (sizeOf_member name part members inside)]
    | null | bool | num | str => rfl

end TsWorkshop.Json
