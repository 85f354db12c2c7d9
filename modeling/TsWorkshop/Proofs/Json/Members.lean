import TsWorkshop.Proofs.Json.AnyOrder

/-!
Objects member by member. `Json.overlaid` lays a value over another one: objects are combined key
by key, and everything else is replaced as a whole (`get?_overlaidMembers`). A record of optional
fields is read from an object exactly if each of its members that has a field is read on its own,
and it has under each field what that member is read as (`exists_read_record_iff`,
`get?_of_read_record`).
-/

namespace TsWorkshop

open Source (gathered)

namespace Json

mutual

/-- Lays a later value over an earlier one. An object keeps what the later one does not set. -/
def overlaid (earlier : Json) : Json → Json
  | obj later =>
    match earlier with
    | obj members => obj (overlaidMembers members later)
    | _ => obj later
  | later => later

/-- Lays later members over earlier ones, key by key. -/
def overlaidMembers (earlier : Assoc Json) : List (String × Json) → Assoc Json
  | [] => earlier
  | (key, value) :: rest =>
    overlaidMembers
      (earlier.put key
        (match earlier.get? key with
        | some old => overlaid old value
        | none => value)) rest

end

def isObject : Json → Bool
  | obj _ => true
  | _ => false

theorem overlaid_of_not_isObject (earlier later : Json)
    (h : earlier.isObject = false ∨ later.isObject = false) : earlier.overlaid later = later := by
  cases later with
  | obj later =>
    cases earlier with
    | obj members => simp [isObject] at h
    | _ => rfl
  | _ => rfl

theorem get?_overlaidMembers (earlier later : Assoc Json) (distinct : later.keys.Nodup)
    (name : String) :
    (overlaidMembers earlier later : Assoc Json).get? name =
      Option.merge overlaid (earlier.get? name) (later.get? name) := by
  induction later generalizing earlier with
  | nil => simp [overlaidMembers]
  | cons entry rest ih =>
    obtain ⟨key, value⟩ := entry
    obtain ⟨fresh, distinct⟩ := List.nodup_cons.mp distinct
    rw [overlaidMembers, ih _ distinct, Assoc.get?_put]
    by_cases same : key = name
    · subst same
      rw [(Assoc.get?_eq_none_iff key rest).mpr fresh]
      cases earlier.get? key <;> simp [Option.merge]
    · simp [same, Assoc.get?_cons_of_ne _ _ _ _ same]

theorem nodup_keys_overlaidMembers (earlier later : Assoc Json) (distinct : earlier.keys.Nodup) :
    (overlaidMembers earlier later : Assoc Json).keys.Nodup := by
  induction later generalizing earlier with
  | nil => exact distinct
  | cons entry rest ih =>
    obtain ⟨key, value⟩ := entry
    rw [overlaidMembers]
    exact ih _ (Assoc.nodup_keys_put key _ earlier distinct)

end Json

namespace Source

mutual

/-- Nothing stops a reader that skips a value without faults. -/
theorem skip_ofJson : ∀ v : Json, (ofJson v).skip = none
  | .null | .bool _ | .num _ | .str _ => rfl
  | .arr items => by
    rw [ofJson, skip, skipItems_ofItems items]
    rfl
  | .obj members => by
    rw [ofJson, skip, skipMembers_ofMembers members]
    rfl

theorem skipItems_ofItems : ∀ items : List Json, skipItems (ofItems items) = none
  | [] => rfl
  | item :: rest => by
    rw [ofItems, skipItems, skip_ofJson item, skipItems_ofItems rest]
    rfl

theorem skipMembers_ofMembers :
    ∀ members : List (String × Json), skipMembers (ofMembers members) = none
  | [] => rfl
  | (key, item) :: rest => by
    rw [ofMembers, skipMembers, skip_ofJson item, skipMembers_ofMembers rest]
    rfl

end

theorem ofMembers_eq_map (members : List (String × Json)) :
    ofMembers members = members.map fun entry => (.ok entry.1, ofJson entry.2) := by
  induction members with
  | nil => rfl
  | cons entry rest ih => rw [ofMembers, ih, List.map_cons]

theorem keys_ofMembers (members : Assoc Json) : keys (ofMembers members) = members.keys := by
  rw [ofMembers_eq_map, keys, List.filterMap_map]
  change members.filterMap (some ∘ Prod.fst) = members.map Prod.fst
  rw [List.filterMap_eq_map]

end Source

/-- Every field need not be there, and members with other keys are skipped. -/
structure Record.Lenient {ρ : Type} (record : Record ρ) : Prop where
  names : (record.fields.map Field.name).Nodup
  optional : ∀ field ∈ record.fields, field.optional = true
  skips : record.keepsOthers = false
  accepts : record.refusesOthers = false

namespace Shape

variable {ρ : Type} (grammar : Grammar ρ)

/-- What a field's member is read as. -/
def fieldValue? (room : Nat) (field : Field ρ) (v : Json) : Option Json :=
  (if field.nullable && (Source.ofJson v).isNull then .ok .null
    else read grammar field.shape room (Source.ofJson v) : Except Complaint Json).toOption

theorem field?_eq_some_iff (record : Record ρ) (names : (record.fields.map Field.name).Nodup)
    (name : String) (field : Field ρ) :
    record.field? name = some field ↔ field ∈ record.fields ∧ field.name = name := by
  unfold Record.field?
  constructor
  · intro known
    exact ⟨List.mem_of_find?_eq_some known, by simpa using List.find?_some known⟩
  · rintro ⟨inside, rfl⟩
    cases known : record.fields.find? fun other => other.name = field.name with
    | none => simpa using List.find?_eq_none.mp known field inside
    | some other =>
      have same : other.name = field.name := by simpa using List.find?_some known
      rw [List.inj_on_of_nodup_map names (List.mem_of_find?_eq_some known) inside same]

section Lenient

variable {record : Record ρ} (lenient : record.Lenient) (room : Nat) (members : Assoc Json)

include lenient

theorem missing?_eq_none (entries : Assoc Json) : record.missing? entries = none := by
  rw [Record.missing?, Option.map_eq_none_iff, List.find?_eq_none]
  intro field inside
  simp [lenient.optional field inside]

/-- A member with a field is what the field reads, and every other one is skipped. -/
theorem readEntry_ofJson (key : String) (v : Json) :
    readEntry grammar record room (.ok key, Source.ofJson v) =
      match record.field? key with
      | some field => (fieldValue? grammar room field v).map fun w => some (key, w)
      | none => some none := by
  unfold readEntry fieldValue?
  change Option.bind (some key) _ = _
  rw [Option.bind_some, lenient.skips, lenient.accepts, Source.skip_ofJson]
  cases record.field? key <;> rfl

/-- The members of a record are read if each that has a field is. -/
theorem isSome_gathered_iff (distinct : members.keys.Nodup) :
    (gathered (readEntry grammar record room) (Source.ofMembers members)).isSome = true ↔
      ∀ field ∈ record.fields, ∀ v, members.get? field.name = some v →
        (fieldValue? grammar room field v).isSome = true := by
  have all : (gathered (readEntry grammar record room) (Source.ofMembers members)).isSome = true ↔
      ∀ entry ∈ members,
        (readEntry grammar record room (.ok entry.1, Source.ofJson entry.2)).isSome = true := by
    unfold gathered
    rw [Source.ofMembers_eq_map, List.all_map]
    split <;> simp_all
  rw [all]
  constructor
  · intro each field inside v there
    have read := each _ (Assoc.mem_of_get? field.name members v there)
    rw [readEntry_ofJson grammar lenient,
      (field?_eq_some_iff record lenient.names field.name field).mpr ⟨inside, rfl⟩] at read
    simpa using read
  · rintro each ⟨key, v⟩ inside
    rw [readEntry_ofJson grammar lenient]
    cases known : record.field? key with
    | none => rfl
    | some field =>
      obtain ⟨listed, rfl⟩ := (field?_eq_some_iff record lenient.names key field).mp known
      have read := each field listed v (Assoc.get?_of_mem members distinct field.name v inside)
      simpa using read

/-- Under each field stands what its member is read as. -/
theorem get?_of_gathered (distinct : members.keys.Nodup) (entries : Assoc Json)
    (h : gathered (readEntry grammar record room) (Source.ofMembers members) = some entries) :
    (Assoc.keys entries).Nodup ∧ ∀ field ∈ record.fields,
      entries.get? field.name =
        (members.get? field.name).bind (fieldValue? grammar room field) := by
  have unique := Source.nodup_gathered _ (keyed_readEntry grammar record room) _
    (by rw [Source.keys_ofMembers]; exact distinct) entries h
  refine ⟨unique, fun field inside => ?_⟩
  apply Option.ext
  intro w
  have known := (field?_eq_some_iff record lenient.names field.name field).mpr ⟨inside, rfl⟩
  have listed : (field.name, w) ∈ entries ↔ ∃ v, (field.name, v) ∈ members ∧
      fieldValue? grammar room field v = some w := by
    unfold gathered at h
    split at h
    · cases h
      rw [Source.ofMembers_eq_map, List.filterMap_map, List.mem_filterMap]
      constructor
      · rintro ⟨⟨key, v⟩, member, read⟩
        have read := Option.join_eq_some_iff.mp read
        obtain rfl : key = field.name :=
          Except.ok.inj (keyed_readEntry grammar record room _ _ _ read)
        rw [readEntry_ofJson grammar lenient, known] at read
        obtain ⟨u, read, same⟩ := Option.map_eq_some_iff.mp read
        cases same
        exact ⟨v, member, read⟩
      · rintro ⟨v, member, read⟩
        refine ⟨(field.name, v), member, ?_⟩
        rw [Function.comp_apply, readEntry_ofJson grammar lenient, known]
        simp [read]
    · cases h
  rw [← Assoc.mem_iff_get? entries unique, listed, Option.bind_eq_some_iff]
  simp only [Assoc.mem_iff_get? members distinct]

end Lenient

variable {grammar}

theorem toOption_read_record (name : ρ) (lenient : (grammar name).Lenient) (room : Nat)
    (some_ : 0 < room) (members : Assoc Json) (distinct : members.keys.Nodup) :
    (read grammar (.record name) (room + 1) (Source.ofJson (.obj members))).toOption =
      (gathered (readEntry grammar (grammar name) room)
        (Source.ofMembers members)).map Json.obj := by
  rw [Source.ofJson, read, if_neg (by omega), toOption_bind,
    toOption_readMembers grammar (grammar name) _ [] _ (by rwa [Source.keys_ofMembers])
      fun _ _ => by simp]
  simp only [Nat.add_sub_cancel, missing?_eq_none lenient]
  cases gathered (readEntry grammar (grammar name) room) (Source.ofMembers members) <;> rfl

/-- A record of optional fields is read exactly if each member with a field is read on its own. -/
theorem exists_read_record_iff (name : ρ) (lenient : (grammar name).Lenient) (room : Nat)
    (some_ : 0 < room) (members : Assoc Json) (distinct : members.keys.Nodup) :
    (∃ w, read grammar (.record name) (room + 1) (Source.ofJson (.obj members)) = .ok w) ↔
      ∀ field ∈ (grammar name).fields, ∀ v, members.get? field.name = some v →
        (fieldValue? grammar room field v).isSome = true := by
  rw [← isSome_gathered_iff grammar lenient room members distinct, Option.isSome_iff_exists]
  simp only [← toOption_eq_some_iff, toOption_read_record name lenient room some_ members distinct,
    Option.map_eq_some_iff]
  constructor
  · rintro ⟨-, entries, there, -⟩
    exact ⟨entries, there⟩
  · rintro ⟨entries, there⟩
    exact ⟨_, entries, there, rfl⟩

/-- A record that is read has under each field what its member is read as. -/
theorem get?_of_read_record (name : ρ) (lenient : (grammar name).Lenient) (room : Nat)
    (some_ : 0 < room) (members : Assoc Json) (distinct : members.keys.Nodup) (w : Json)
    (h : read grammar (.record name) (room + 1) (Source.ofJson (.obj members)) = .ok w) :
    ∃ entries : Assoc Json, w = .obj entries ∧ entries.keys.Nodup ∧
      ∀ field ∈ (grammar name).fields, entries.get? field.name =
        (members.get? field.name).bind (fieldValue? grammar room field) := by
  rw [← toOption_eq_some_iff, toOption_read_record name lenient room some_ members distinct,
    Option.map_eq_some_iff] at h
  obtain ⟨entries, there, rfl⟩ := h
  exact ⟨entries, rfl, get?_of_gathered grammar lenient room members distinct entries there⟩

end Shape

end TsWorkshop
