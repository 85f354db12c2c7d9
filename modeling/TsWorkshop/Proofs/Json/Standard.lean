import TsWorkshop.Json.Shape
import TsWorkshop.Proofs.Except
import TsWorkshop.Proofs.Json.Canonical

/-!
The standard form of a value that is read by a shape: no object in it has a repeated key, whatever
the text repeats (`uniqueKeys_ofText`). A record refuses a repeated field and folds a repeated
member without a field into its first place; what is read for its content is canonical.
-/

namespace TsWorkshop

theorem Json.uniqueKeys_put (members : Assoc Json) (key : String) (v : Json)
    (before : (Json.obj members).uniqueKeys = true) (unique : v.uniqueKeys = true) :
    (Json.obj (Assoc.put key v members)).uniqueKeys = true := by
  obtain ⟨keysUnique, values⟩ := (uniqueKeys_obj_iff members).mp before
  have after := Assoc.nodup_keys_put key v members keysUnique
  refine (uniqueKeys_obj_iff _).mpr ⟨after, fun name w member => ?_⟩
  have found := Assoc.get?_of_mem _ after name w member
  rw [Assoc.get?_put] at found
  by_cases same : key = name
  · rw [if_pos same, Option.some.injEq] at found
    exact found ▸ unique
  · rw [if_neg same] at found
    exact values name w (Assoc.mem_of_get? name members w found)

namespace Shape

variable {ρ : Type}

/-- The tests in a shape accept only values without repeated keys. -/
def Strict : Shape ρ → Prop
  | list item => item.Strict
  | choice _ accepts => ∀ v, accepts v = true → v.uniqueKeys = true
  | any | text _ | flag | whole _ _ _ | word _ _ | record _ | oneOrMany _ _ => True

end Shape

/-- The records of a format have no field twice, and strict shapes for their fields. -/
structure Grammar.Strict {ρ : Type} (grammar : Grammar ρ) : Prop where
  names : ∀ name, ((grammar name).fields.map Field.name).Nodup
  shapes : ∀ name, ∀ field ∈ (grammar name).fields, field.shape.Strict

namespace Shape

variable {ρ : Type} (grammar : Grammar ρ)

/-! ### Values without parts -/

theorem uniqueKeys_readWord (shape : Shape ρ) (word v : Json) (leaf : word.uniqueKeys = true)
    (h : readWord grammar shape word = .ok v) : v.uniqueKeys = true := by
  have same : v = word := by
    unfold readWord at h
    split at h
    · cases h; rfl
    · split at h
      · cases h; rfl
      · cases h
    · cases h
    · cases h
    · split at h
      · cases h; rfl
      · cases h
    · cases h
  exact same ▸ leaf

theorem uniqueKeys_readNumber (shape : Shape ρ) (n : JsonNumber) (v : Json)
    (h : readNumber grammar shape n = .ok v) : v.uniqueKeys = true := by
  unfold readNumber at h
  split at h
  · cases h; rfl
  · split at h
    · split at h
      · cases h; rfl
      · cases h
    · cases h
  · split at h
    · cases h; rfl
    · cases h
  all_goals cases h

theorem uniqueKeys_readText (shape : Shape ρ) (s : String) (v : Json)
    (h : readText grammar shape s = .ok v) : v.uniqueKeys = true := by
  unfold readText at h
  split at h
  · cases h; rfl
  · cases h; rfl
  · split at h
    · cases h; rfl
    · cases h
  · split at h
    · cases h; rfl
    · cases h
  all_goals cases h

theorem uniqueKeys_readWordObject (known : List String) (meaning : Assoc String)
    (members : List (Except Complaint String × Source)) (ending : ObjectEnd) (v : Json)
    (h : readWordObject known meaning members ending = .ok v) : v.uniqueKeys = true := by
  unfold readWordObject at h
  split at h
  · cases h
  · cases h
  · obtain ⟨key, -, h⟩ := (bind_eq_ok_iff _ _ _).mp h
    split at h
    · obtain ⟨key, -, h⟩ := (bind_eq_ok_iff _ _ _).mp h
      cases h
    · split at h
      · split at h
        · cases h; rfl
        all_goals cases h
      · cases h
      · cases h
      · obtain ⟨n, -, h⟩ := (bind_eq_ok_iff _ _ _).mp h
        split at h <;> cases h
      · obtain ⟨s, -, h⟩ := (bind_eq_ok_iff _ _ _).mp h
        cases h
      · cases h
      · cases h

/-! ### Lists and records -/

/-- Whatever is read from the source by a strict shape has unique keys. -/
def Standard (source : Source) : Prop :=
  ∀ shape room v, shape.Strict → read grammar shape room source = .ok v → v.uniqueKeys = true

theorem uniqueKeys_readItems (shape : Shape ρ) (strict : shape.Strict) (room : Nat)
    (items : List Source) (each : ∀ item ∈ items, Standard grammar item) (vs : List Json)
    (h : readItems grammar shape room items = .ok vs) : (Json.arr vs).uniqueKeys = true := by
  rw [Json.uniqueKeys_arr_iff]
  induction items generalizing vs with
  | nil =>
    cases h
    simp
  | cons item rest ih =>
    obtain ⟨v, first, h⟩ := (bind_eq_ok_iff _ _ _).mp h
    obtain ⟨others, later, h⟩ := (bind_eq_ok_iff _ _ _).mp h
    cases h
    obtain ⟨here, each⟩ := List.forall_mem_cons.mp each
    exact List.forall_mem_cons.mpr ⟨here shape room v strict first, ih each others later⟩

theorem keys_readTuple (record : Record ρ) (room count : Nat) (fields : List (Field ρ))
    (strict : ∀ field ∈ fields, field.shape.Strict) (items : List Source)
    (each : ∀ item ∈ items, Standard grammar item) (ending : ListEnd) (members : Assoc Json)
    (h : readTuple grammar record room count fields items ending = .ok members) :
    (Assoc.keys members).Sublist (fields.map Field.name) ∧
      ∀ key v, (key, v) ∈ members → v.uniqueKeys = true := by
  induction items generalizing count fields members with
  | nil =>
    have empty : members = [] := by
      unfold readTuple at h
      split at h
      · split at h <;> cases h
      · split at h
        · cases h; rfl
        · cases h
    simp [empty]
  | cons item rest ih =>
    cases fields with
    | nil => cases h
    | cons field fields =>
      obtain ⟨value, read, h⟩ := (bind_eq_ok_iff _ _ _).mp h
      obtain ⟨others, later, h⟩ := (bind_eq_ok_iff _ _ _).mp h
      obtain ⟨here, each⟩ := List.forall_mem_cons.mp each
      obtain ⟨strictHere, strict⟩ := List.forall_mem_cons.mp strict
      obtain ⟨sublist, values⟩ := ih (count + 1) fields strict each others later
      cases value with
      | none =>
        cases h
        exact ⟨sublist.cons _, values⟩
      | some v =>
        cases h
        have unique : v.uniqueKeys = true := by
          split at read
          · cases read
          · obtain ⟨v, read, same⟩ := (bind_eq_ok_iff _ _ _).mp read
            cases same
            exact here field.shape room v strictHere read
        refine ⟨sublist.cons_cons _, fun key w member => ?_⟩
        rcases List.mem_cons.mp member with same | member
        · cases same
          exact unique
        · exact values key w member

theorem uniqueKeys_readMembers (strict : grammar.Strict) (name : ρ) (room : Nat)
    (members : List (Except Complaint String × Source))
    (each : ∀ member ∈ members, Standard grammar member.2) (ending : ObjectEnd)
    (seen result : Assoc Json) (before : (Json.obj seen).uniqueKeys = true)
    (h : readMembers grammar (grammar name) room seen members ending = .ok result) :
    (Json.obj result).uniqueKeys = true := by
  induction members generalizing seen with
  | nil =>
    have same : result = seen := by
      unfold readMembers at h
      split at h
      · cases h
      · split at h
        · cases h
        · cases h; rfl
    exact same ▸ before
  | cons member rest ih =>
    obtain ⟨key, item⟩ := member
    obtain ⟨here, each⟩ := List.forall_mem_cons.mp each
    obtain ⟨key, -, h⟩ := (bind_eq_ok_iff _ _ _).mp h
    split at h
    · next field known =>
      split at h
      · cases h
      · obtain ⟨v, read, h⟩ := (bind_eq_ok_iff _ _ _).mp h
        have listed : field ∈ (grammar name).fields := List.mem_of_find?_eq_some known
        have unique : v.uniqueKeys = true := by
          split at read
          · cases read; rfl
          · exact here field.shape room v (strict.shapes name field listed) read
        exact ih each _ (Json.uniqueKeys_put seen key v before unique) h
    · split at h
      · obtain ⟨v, -, h⟩ := (bind_eq_ok_iff _ _ _).mp h
        exact ih each _ (Json.uniqueKeys_put seen key _ before v.uniqueKeys_canonical) h
      · split at h
        · cases h
        · split at h
          · cases h
          · exact ih each seen before h

/-! ### Sources -/

theorem Source.induction_on_parts {P : Source → Prop} (source : Source)
    (step : ∀ source, (∀ part, sizeOf part < sizeOf source → P part) → P source) : P source :=
  step source fun part _ => induction_on_parts part step
termination_by sizeOf source

theorem standard (strict : grammar.Strict) (source : Source) : Standard grammar source := by
  induction source using Source.induction_on_parts with
  | step source parts =>
    intro shape room v tests h
    cases source with
    | null => exact uniqueKeys_readWord grammar shape _ v rfl h
    | bool b => exact uniqueKeys_readWord grammar shape _ v rfl h
    | num n =>
      unfold read at h
      split at h
      · cases h
      · obtain ⟨n, -, h⟩ := (bind_eq_ok_iff _ _ _).mp h
        exact uniqueKeys_readNumber grammar shape n v h
    | str s =>
      obtain ⟨s, -, h⟩ := (bind_eq_ok_iff _ _ _).mp h
      exact uniqueKeys_readText grammar shape s v h
    | stop reading skipping =>
      unfold read at h
      split at h <;> cases h
    | arr items ending =>
      have each : ∀ item ∈ items, Standard grammar item := by
        intro item member
        have := List.sizeOf_lt_of_mem member
        refine parts item ?_
        simp only [Source.arr.sizeOf_spec]
        omega
      cases shape with
      | any =>
        obtain ⟨w, -, h⟩ := (bind_eq_ok_iff _ _ _).mp h
        cases h
        exact w.uniqueKeys_canonical
      | choice name accepts =>
        obtain ⟨w, -, h⟩ := (bind_eq_ok_iff _ _ _).mp h
        split at h
        · cases h
          exact tests v ‹_›
        · cases h
      | oneOrMany name item =>
        obtain ⟨w, -, h⟩ := (bind_eq_ok_iff _ _ _).mp h
        split at h
        · next vs read =>
          cases h
          exact uniqueKeys_readItems grammar (.record item) trivial _ items each vs read
        · cases h
      | list item =>
        simp only [read] at h
        split at h
        · cases h
        · obtain ⟨vs, read, h⟩ := (bind_eq_ok_iff _ _ _).mp h
          split at h
          · cases h
          · cases h
            exact uniqueKeys_readItems grammar item tests _ items each vs read
      | record name =>
        simp only [read] at h
        split at h
        · cases h
        · split at h
          · cases h
          · obtain ⟨members, read, h⟩ := (bind_eq_ok_iff _ _ _).mp h
            cases h
            obtain ⟨sublist, values⟩ := keys_readTuple grammar (grammar name) _ _ _
              (strict.shapes name) items each ending members read
            exact (Json.uniqueKeys_obj_iff members).mpr
              ⟨(strict.names name).sublist sublist, values⟩
      | text | flag | whole | word => cases h
    | obj members ending =>
      have each : ∀ member ∈ members, Standard grammar member.2 := by
        intro ⟨key, item⟩ member
        have := List.sizeOf_lt_of_mem member
        refine parts item ?_
        simp only [Prod.mk.sizeOf_spec] at this
        simp only [Source.obj.sizeOf_spec]
        omega
      cases shape with
      | any =>
        obtain ⟨w, -, h⟩ := (bind_eq_ok_iff _ _ _).mp h
        cases h
        exact w.uniqueKeys_canonical
      | choice name accepts =>
        obtain ⟨w, -, h⟩ := (bind_eq_ok_iff _ _ _).mp h
        split at h
        · cases h
          exact tests v ‹_›
        · cases h
      | oneOrMany name item =>
        obtain ⟨w, -, h⟩ := (bind_eq_ok_iff _ _ _).mp h
        split at h
        · next result read =>
          cases h
          exact uniqueKeys_readMembers grammar strict item _ members each ending [] result rfl read
        · cases h
      | record name =>
        simp only [read] at h
        split at h
        · cases h
        · obtain ⟨result, read, h⟩ := (bind_eq_ok_iff _ _ _).mp h
          cases h
          exact uniqueKeys_readMembers grammar strict name _ members each ending [] result rfl read
      | word known meaning =>
        simp only [read] at h
        split at h
        · cases h
        · exact uniqueKeys_readWordObject known meaning members ending v h
      | text | flag | whole | list => cases h

/-- A text that is read by a strict shape gives a value without repeated keys. -/
theorem uniqueKeys_ofText (strict : grammar.Strict) (shape : Shape ρ) (tests : shape.Strict)
    (text : String) (v : Json) (h : shape.ofText grammar text = .ok v) : v.uniqueKeys = true := by
  obtain ⟨w, read, h⟩ := (bind_eq_ok_iff _ _ _).mp h
  split at h
  · cases h
  · cases h
    exact standard grammar strict (Source.ofText text).1 shape Source.depthLimit v tests read

end Shape

end TsWorkshop
