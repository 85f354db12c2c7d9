import TsWorkshop.Config.Shape
import TsWorkshop.Proofs.Config.Leaves
import TsWorkshop.Proofs.Json.Members

/-!
Sections of a configuration as lists of elements. An element is lawful if it is read back from its
written form and if laying a value over its written default does not change what the value is read
as; a section is lawful if its elements are, and then it is a lawful element of a larger one
(`Schema.Lawful.element`). Both ways of reading are covered: from JSON texts, by shape, and from
settings that are put together from layers.
-/

namespace TsWorkshop

/-- What a part is read as; the absence of one stands for the default. -/
def given {V α : Type} (read : V → Option α) (default : α) (part : Option V) : Option α :=
  part.elim (some default) read

/-- If the earlier part is the default and does not show in what is laid over it, then the later
part alone counts. -/
theorem given_merge {V α : Type} (read : V → Option α) (default : α) (lay : V → V → V)
    (earlier later : Option V)
    (settled : ∀ part, earlier = some part →
      read part = some default ∧ ∀ other, later = some other → read (lay part other) = read other) :
    given read default (Option.merge lay earlier later) = given read default later := by
  cases earlier with
  | none => cases later <;> rfl
  | some part =>
    obtain ⟨same, replaced⟩ := settled part rfl
    cases later with
    | none => exact same
    | some other => exact replaced other rfl

namespace Setting

theorem laid_eq_merge (earlier later : Option Setting) :
    laid earlier later = Option.merge overlaid earlier later := by
  cases earlier <;> cases later <;> rfl

theorem given_eq_some_iff {α : Type} (read : Setting → Except Refusal α) (default value : α)
    (part : Option Setting) :
    given (fun part => (read part).toOption) default part = some value ↔
      Answers read default part value := by
  unfold given
  cases part with
  | some part => rw [Option.elim_some, toOption_eq_some_iff, answers_some_iff]
  | none => rw [Option.elim_none, Option.some.injEq, answers_none_iff, eq_comm]

theorem get?_members_ofJson (origin : Origin) (entries : Assoc Json)
    (distinct : entries.keys.Nodup) (name : String) :
    (ofJson origin (.obj entries)).members.get? name =
      (entries.get? name).map (ofJson origin) := by
  have mapped (entries : Assoc Json) : ofDataMembers origin (Data.ofJsonMembers entries) =
      entries.map fun entry => (entry.1, ofJson origin entry.2) := by
    induction entries with
    | nil => rfl
    | cons entry rest ih => rw [Data.ofJsonMembers, ofDataMembers, ih, List.map_cons, ofJson]
  rw [ofJson, Data.ofJson, ofData, members, mapped, Assoc.get?_sorted, Assoc.get?_map]
  simpa [Assoc.keys, Function.comp_def] using distinct

end Setting

namespace Config

/-- One element of a section: the field that it has in a JSON text, how it is read from a setting
and written, its default and where the section keeps it. -/
structure Element (β : Type) where
  {α : Type}
  field : Field RecordName
  read : Setting → Except Refusal α
  /-- Nothing is written for a value that is left out. -/
  write : α → Option Json
  default : α
  get : β → α

namespace Element

variable {β : Type} (e : Element β)

/-- Reads a value of a JSON text: by its shape first, and then as a setting. -/
def readJson (room : Nat) (v : Json) : Option e.α :=
  (Shape.fieldValue? grammar room e.field v).bind fun w =>
    (e.read (Setting.ofJson .package w)).toOption

/-- What is written is read back, and a value that is laid over the written default is read as if it
stood alone. -/
structure Lawful (room : Nat) : Prop where
  readsBack : ∀ a, given (e.readJson room) e.default (e.write a) = some a
  readsBackSetting : ∀ origin a,
    Setting.Answers e.read e.default ((e.write a).map (Setting.ofJson origin)) a
  overDefault : ∀ d, e.write e.default = some d → ∀ v : Json, v.uniqueKeys = true →
    e.readJson room (d.overlaid v) = e.readJson room v
  overDefaultSetting : ∀ origin d, e.write e.default = some d → ∀ s : Setting, s.Ordered →
    (e.read ((Setting.ofJson origin d).overlaid s)).toOption = (e.read s).toOption

variable {e}

/-- A default that is no object is replaced as a whole. -/
theorem lawful_of_not_isObject (room : Nat)
    (readsBack : ∀ a, given (e.readJson room) e.default (e.write a) = some a)
    (readsBackSetting : ∀ origin a,
      Setting.Answers e.read e.default ((e.write a).map (Setting.ofJson origin)) a)
    (plain : ∀ d, e.write e.default = some d → d.isObject = false) : e.Lawful room where
  readsBack := readsBack
  readsBackSetting := readsBackSetting
  overDefault d written v _ := by
    rw [Json.overlaid_of_not_isObject d v (Or.inl (plain d written))]
  overDefaultSetting origin d written s ordered := by
    have bare : (Setting.ofJson origin d).isDictionary = false := by
      cases d with
      | obj => cases plain _ written
      | num n => cases n <;> rfl
      | _ => rfl
    rw [Setting.overlaid_of_earlier _ s ordered bare]

/-- An element whose written values are in shape and no objects is lawful if it reads them back. -/
theorem lawful_of_shaped (room : Nat) (write : e.α → Json)
    (writes : ∀ a, e.write a = some (write a))
    (present : e.field.nullable = false)
    (shaped : ∀ a, Shape.read grammar e.field.shape room (Source.ofJson (write a)) = .ok (write a))
    (reads : ∀ origin a, e.read (Setting.ofJson origin (write a)) = .ok a)
    (plain : (write e.default).isObject = false) : e.Lawful room := by
  refine lawful_of_not_isObject room (fun a => ?_) (fun origin a => ?_) fun d wrote => ?_
  · rw [writes, given, Option.elim_some, readJson, Shape.fieldValue?, present, Bool.false_and,
      if_neg Bool.false_ne_true, shaped]
    exact (toOption_eq_some_iff _ _).mpr (reads .package a)
  · rw [writes]
    exact Setting.Answers.part _ a (reads origin a)
  · rw [writes] at wrote
    cases wrote
    exact plain

end Element

/-- A section: its record in JSON texts, how it is read from a setting and written, its default and
its elements. -/
structure Schema (β : Type) where
  name : RecordName
  read : Setting → Except Refusal β
  write : β → Json
  default : β
  elements : List (Element β)

namespace Schema

variable {β γ : Type} (s : Schema β)

/-- Reads a value of a JSON text: by the shape of the section first, and then as a setting. -/
def readJson (room : Nat) (v : Json) : Option β :=
  (Shape.read grammar (.record s.name) room (Source.ofJson v)).toOption.bind fun w =>
    (s.read (Setting.ofJson .package w)).toOption

/-- The members that the elements of a section write. -/
def written (b : β) : Assoc Json :=
  s.elements.filterMap fun e => (e.write (e.get b)).map fun v => (e.field.name, v)

/-- The fields of the section are its elements', a dictionary is read element by element, each
element is written under its name, and the elements are lawful. -/
structure Lawful (room : Nat) : Prop where
  fields : (grammar s.name).fields = s.elements.map Element.field
  lenient : (grammar s.name).Lenient
  reads : ∀ origin (members : Assoc Setting) b, s.read (.dict origin members) = .ok b ↔
    ∀ e ∈ s.elements, Setting.Answers e.read e.default (members.get? e.field.name) (e.get b)
  writes : ∀ b, s.write b = .obj (s.written b)
  defaults : ∀ e ∈ s.elements, e.get s.default = e.default
  elements : ∀ e ∈ s.elements, e.Lawful room

namespace Lawful

variable {s} {room : Nat} (lawful : s.Lawful room)

include lawful

theorem names : (s.elements.map fun e => e.field.name).Nodup := by
  have names := lawful.lenient.names
  rwa [lawful.fields, List.map_map] at names

theorem mem_fields (e : Element β) (inside : e ∈ s.elements) :
    e.field ∈ (grammar s.name).fields := by
  rw [lawful.fields]
  exact List.mem_map_of_mem inside

theorem keys_written (b : β) : (s.written b).keys.Nodup := by
  have among : (s.written b).keys.Sublist (s.elements.map fun e => e.field.name) := by
    unfold written
    induction s.elements with
    | nil => exact List.Sublist.refl []
    | cons e rest ih =>
      rw [List.filterMap_cons]
      cases e.write (e.get b) with
      | none => exact ih.cons _
      | some v => exact ih.cons_cons _
  exact lawful.names.sublist among

theorem get?_written (b : β) (e : Element β) (inside : e ∈ s.elements) :
    (s.written b).get? e.field.name = e.write (e.get b) := by
  apply Option.ext
  intro v
  rw [← Assoc.mem_iff_get? _ (lawful.keys_written b)]
  unfold written
  rw [List.mem_filterMap]
  constructor
  · rintro ⟨other, among, wrote⟩
    obtain ⟨w, wrote', same⟩ := Option.map_eq_some_iff.mp wrote
    obtain ⟨name, rfl⟩ := Prod.mk.inj same
    obtain rfl := List.inj_on_of_nodup_map lawful.names among inside name
    exact wrote'
  · intro wrote
    exact ⟨e, inside, by rw [wrote, Option.map_some]⟩

/-! ### Objects -/

/-- An object is read as a section exactly if each element is read from its member. -/
theorem readJson_obj_iff (some_ : 0 < room) (members : Assoc Json) (distinct : members.keys.Nodup)
    (b : β) :
    s.readJson (room + 1) (.obj members) = some b ↔
      ∀ e ∈ s.elements, given (e.readJson room) e.default (members.get? e.field.name) =
        some (e.get b) := by
  have shapes := Shape.exists_read_record_iff s.name lawful.lenient room some_ members distinct
  -- what an element is read as from the object that the shape leaves
  have same (entries : Assoc Json) (unique : entries.keys.Nodup) (e : Element β)
      (found : entries.get? e.field.name =
        (members.get? e.field.name).bind (Shape.fieldValue? grammar room e.field))
      (fits : ∀ v, members.get? e.field.name = some v →
        (Shape.fieldValue? grammar room e.field v).isSome = true) :
      Setting.Answers e.read e.default
          ((Setting.ofJson .package (.obj entries)).members.get? e.field.name) (e.get b) ↔
        given (e.readJson room) e.default (members.get? e.field.name) = some (e.get b) := by
    rw [← Setting.given_eq_some_iff, Setting.get?_members_ofJson _ _ unique, found]
    cases there : members.get? e.field.name with
    | none => exact Iff.rfl
    | some v =>
      obtain ⟨w, read⟩ := Option.isSome_iff_exists.mp (fits v there)
      simp only [given, Option.bind_some, Option.elim_some, Element.readJson, read, Option.map_some]
  have dictionary (entries : Assoc Json) : Setting.ofJson .package (.obj entries) =
      .dict .package (Setting.ofJson .package (.obj entries)).members := rfl
  unfold readJson
  constructor
  · intro h
    obtain ⟨w, read, h⟩ := Option.bind_eq_some_iff.mp h
    rw [toOption_eq_some_iff] at read h
    have fits := shapes.mp ⟨w, read⟩
    obtain ⟨entries, rfl, unique, found⟩ := Shape.get?_of_read_record s.name lawful.lenient room
      some_ members distinct w read
    rw [dictionary, lawful.reads] at h
    intro e inside
    have field := lawful.mem_fields e inside
    rw [← same entries unique e (found _ field) (fits _ field)]
    exact h e inside
  · intro each
    have fits : ∀ field ∈ (grammar s.name).fields, ∀ v, members.get? field.name = some v →
        (Shape.fieldValue? grammar room field v).isSome = true := by
      intro field listed v there
      rw [lawful.fields, List.mem_map] at listed
      obtain ⟨e, inside, rfl⟩ := listed
      have read := each e inside
      rw [there, given, Option.elim_some] at read
      obtain ⟨w, shaped, -⟩ := Option.bind_eq_some_iff.mp read
      exact Option.isSome_iff_exists.mpr ⟨w, shaped⟩
    obtain ⟨w, read⟩ := shapes.mpr fits
    obtain ⟨entries, rfl, unique, found⟩ := Shape.get?_of_read_record s.name lawful.lenient room
      some_ members distinct w read
    rw [Option.bind_eq_some_iff]
    refine ⟨_, (toOption_eq_some_iff _ _).mpr read, (toOption_eq_some_iff _ _).mpr ?_⟩
    rw [dictionary, lawful.reads]
    intro e inside
    have field := lawful.mem_fields e inside
    rw [same entries unique e (found _ field) (fits _ field)]
    exact each e inside

/-! ### What is written -/

theorem readJson_write (some_ : 0 < room) (b : β) : s.readJson (room + 1) (s.write b) = some b := by
  rw [lawful.writes, lawful.readJson_obj_iff some_ _ (lawful.keys_written b)]
  intro e inside
  rw [lawful.get?_written b e inside]
  exact (lawful.elements e inside).readsBack _

theorem read_write (origin : Origin) (b : β) :
    s.read (Setting.ofJson origin (s.write b)) = .ok b := by
  rw [lawful.writes]
  change s.read (.dict origin (Setting.ofJson origin (.obj (s.written b))).members) = .ok b
  rw [lawful.reads]
  intro e inside
  rw [Setting.get?_members_ofJson _ _ (lawful.keys_written b), lawful.get?_written b e inside]
  exact (lawful.elements e inside).readsBackSetting origin _

/-! ### What is laid over the default -/

theorem readJson_overlaid (some_ : 0 < room) (v : Json) (unique : v.uniqueKeys = true) :
    s.readJson (room + 1) ((s.write s.default).overlaid v) = s.readJson (room + 1) v := by
  cases object : v.isObject with
  | false => rw [Json.overlaid_of_not_isObject _ v (Or.inr object)]
  | true =>
    obtain ⟨members, rfl⟩ : ∃ members, v = .obj members := by
      cases v with
      | obj members => exact ⟨members, rfl⟩
      | _ => cases object
    obtain ⟨distinct, values⟩ := (Json.uniqueKeys_obj_iff members).mp unique
    apply Option.ext
    intro b
    rw [lawful.writes]
    change s.readJson (room + 1) (.obj (Json.overlaidMembers (s.written s.default) members)) =
      some b ↔ _
    rw [lawful.readJson_obj_iff some_ _
        (Json.nodup_keys_overlaidMembers _ members (lawful.keys_written _)),
      lawful.readJson_obj_iff some_ members distinct]
    apply forall₂_congr
    intro e inside
    rw [Json.get?_overlaidMembers _ members distinct, lawful.get?_written _ e inside,
      lawful.defaults e inside, given_merge]
    intro d wrote
    have readsBack := (lawful.elements e inside).readsBack e.default
    rw [wrote] at readsBack
    refine ⟨readsBack, fun other there => ?_⟩
    exact (lawful.elements e inside).overDefault d wrote other
      (values _ other (Assoc.mem_of_get? _ members other there))

theorem read_overlaid (origin : Origin) (later : Setting) (ordered : later.Ordered) :
    (s.read ((Setting.ofJson origin (s.write s.default)).overlaid later)).toOption =
      (s.read later).toOption := by
  cases dictionary : later.isDictionary with
  | false => rw [Setting.overlaid_of_not_isDictionary _ later dictionary]
  | true =>
    obtain ⟨origin', members, rfl⟩ : ∃ origin' members, later = .dict origin' members := by
      cases later with
      | dict origin' members => exact ⟨origin', members, rfl⟩
      | _ => cases dictionary
    have distinct := ordered.ascending.nodup_keys
    apply Option.ext
    intro b
    rw [toOption_eq_some_iff, toOption_eq_some_iff, lawful.writes, Setting.overlaid, lawful.reads,
      lawful.reads]
    apply forall₂_congr
    intro e inside
    rw [← Setting.given_eq_some_iff, ← Setting.given_eq_some_iff,
      Setting.get?_overlaidMembers _ members distinct, Setting.laid_eq_merge,
      Setting.get?_members_ofJson _ _ (lawful.keys_written _), lawful.get?_written _ e inside,
      lawful.defaults e inside, given_merge]
    intro part there
    obtain ⟨d, wrote, rfl⟩ := Option.map_eq_some_iff.mp there
    have readsBack := (lawful.elements e inside).readsBackSetting origin e.default
    rw [wrote, ← Setting.given_eq_some_iff] at readsBack
    refine ⟨readsBack, fun other there => ?_⟩
    exact (lawful.elements e inside).overDefaultSetting origin d wrote other
      (ordered.part _ other there)

end Lawful

/-- A section as an element of a larger one. -/
def element (key : String) (get : γ → β) : Element γ where
  field := optionalField key (.record s.name)
  read := s.read
  write b := some (s.write b)
  default := s.default
  get := get

theorem Lawful.element {s : Schema β} {room : Nat} (lawful : s.Lawful room) (some_ : 0 < room)
    (key : String) (get : γ → β) : (s.element key get).Lawful (room + 1) where
  readsBack b := lawful.readJson_write some_ b
  readsBackSetting origin b := Setting.Answers.part _ b (lawful.read_write origin b)
  overDefault d written v unique := by
    cases written
    exact lawful.readJson_overlaid some_ v unique
  overDefaultSetting origin d written later ordered := by
    cases written
    exact lawful.read_overlaid origin later ordered

end Schema

end Config

end TsWorkshop
