import TsWorkshop.Proofs.Docs.Outline
import TsWorkshop.Proofs.Json.Canonical
import TsWorkshop.Proofs.Reflection.Reading

/-!
How much of a doc comment reaches the documentation file. `Json.Survives` says that every member
that is not `null` is still there, at every depth. Of an entry of the tags of a comment only the
fields of a tag are written, so a comment is carried through exactly when these entries have no
other members (`comment_carried_iff`).
-/

namespace TsWorkshop

open Fields

/-! ### What survives -/

/-- Every member of the first value that is not `null` is in the second with the same value. -/
inductive Json.Survives : Json → Json → Prop
  | leaf (v : Json) (atomic : v.items? = none ∧ v.members? = none) : Survives v v
  | arr (vs ws : List Json) (items : List.Forall₂ Survives vs ws) : Survives (.arr vs) (.arr ws)
  | obj (vs ws : Assoc Json)
      (present : ∀ name v, Assoc.get? name vs = some v → v ≠ .null →
        ∃ w, Assoc.get? name ws = some w)
      (same : ∀ name v w, Assoc.get? name vs = some v → v ≠ .null →
        Assoc.get? name ws = some w → Survives v w) :
      Survives (.obj vs) (.obj ws)

namespace Json.Survives

theorem arr_iff (vs ws : List Json) :
    Survives (.arr vs) (.arr ws) ↔ List.Forall₂ Survives vs ws := by
  refine ⟨fun h => ?_, Survives.arr vs ws⟩
  cases h with
  | leaf _ atomic => cases atomic.1
  | arr _ _ items => exact items

theorem obj_iff (vs ws : Assoc Json) :
    Survives (.obj vs) (.obj ws) ↔ ∀ name v, Assoc.get? name vs = some v → v ≠ .null →
      ∃ w, Assoc.get? name ws = some w ∧ Survives v w := by
  constructor
  · intro h name v found nonnull
    cases h with
    | leaf _ atomic => cases atomic.2
    | obj _ _ present same =>
      obtain ⟨w, there⟩ := present name v found nonnull
      exact ⟨w, there, same name v w found nonnull there⟩
  · intro h
    refine Survives.obj vs ws (fun name v found nonnull => ?_)
      fun name v w found nonnull there => ?_
    · obtain ⟨w, there, -⟩ := h name v found nonnull
      exact ⟨w, there⟩
    · obtain ⟨w', there', survives⟩ := h name v found nonnull
      obtain rfl : w' = w := Option.some.inj (there'.symm.trans there)
      exact survives

theorem refl (v : Json) : Survives v v := by
  induction v using Json.induction_on_parts with
  | step v ih =>
    cases v with
    | arr items =>
      refine (arr_iff items items).mpr (List.forall₂_same.mpr fun item inside => ?_)
      exact ih item (Json.sizeOf_item item items inside)
    | obj members =>
      refine (obj_iff members members).mpr fun name value found _ => ⟨value, found, ?_⟩
      exact ih value (Json.sizeOf_member name value members (Assoc.mem_of_get? _ _ _ found))
    | null | bool | num | str => exact Survives.leaf _ ⟨rfl, rfl⟩

end Json.Survives

/-! ### Fields that are there -/

/-- A nullable field that is there, and not `null`, is read. -/
theorem readNullable_of_get? {α : Type} (name : String) (read : Json → Option α)
    (members : Assoc Json) (a : Option α) (h : readNullable name read members = some a) (v : Json)
    (found : Assoc.get? name members = some v) (nonnull : v ≠ .null) :
    ∃ b, a = some b ∧ read v = some b := by
  rcases (readNullable_eq_some_iff _ _ _ _).mp h with ⟨-, absent⟩ | ⟨w, b, there, -, hread, rfl⟩
  · simp [found, nonnull] at absent
  · obtain rfl : w = v := Option.some.inj (there.symm.trans found)
    exact ⟨b, rfl, hread⟩

theorem Json.text?_eq_some_iff (v : Json) (s : String) : v.text? = some s ↔ v = .str s := by
  cases v <;> simp [Json.text?]

/-- What is there in a text field, and not `null`, is written again. -/
theorem readNullable_text_written (name : String) (members : Assoc Json) (s : Option String)
    (h : readNullable name Json.text? members = some s) (v : Json)
    (found : Assoc.get? name members = some v) (nonnull : v ≠ .null) : s.map .str = some v := by
  obtain ⟨t, rfl, read⟩ := readNullable_of_get? name _ members s h v found nonnull
  rw [(Json.text?_eq_some_iff v t).mp read]
  rfl

/-! ### Tags -/

def CommentTag.fieldNames : List String := ["tag", "text", "param"]

def CommentTag.fields (t : CommentTag) : List (String × Option Json) :=
  [("tag", some (.str t.tag)), ("text", some (.str t.text)), ("param", t.param.map .str)]

theorem CommentTag.toJson_eq (t : CommentTag) : t.toJson = .obj (written t.fields []) := by
  cases t
  simp [CommentTag.toJson, CommentTag.fields, written]

/-- An entry of the tags of a comment that has no members beside the fields of a tag. -/
def PlainTag (entry : Json) : Prop :=
  ∃ members, entry = .obj members ∧ ∀ name v, Assoc.get? name members = some v → v ≠ .null →
    name ∈ CommentTag.fieldNames

/-- A field of a tag is written as it was read. -/
theorem CommentTag.mem_fields (members : Assoc Json) (t : CommentTag)
    (h : CommentTag.ofJson? (.obj members) = some t) (name : String) (v : Json)
    (field : name ∈ CommentTag.fieldNames) (found : Assoc.get? name members = some v)
    (nonnull : v ≠ .null) : (name, some v) ∈ t.fields := by
  rw [CommentTag.ofJson?_obj] at h
  obtain ⟨-, h⟩ := Option.ite_none_right_eq_some.mp h
  obtain ⟨tag, htag, h⟩ := Option.bind_eq_some_iff.mp h
  obtain ⟨text, htext, h⟩ := Option.bind_eq_some_iff.mp h
  obtain ⟨param, hparam, h⟩ := Option.bind_eq_some_iff.mp h
  obtain rfl := Option.some.inj h
  simp only [CommentTag.fieldNames, List.mem_cons, List.not_mem_nil, or_false] at field
  rcases field with rfl | rfl | rfl
  · obtain ⟨w, there, read⟩ := (readRequired_eq_some_iff _ _ _ _).mp htag
    obtain rfl : w = v := Option.some.inj (there.symm.trans found)
    simp [CommentTag.fields, (Json.text?_eq_some_iff w tag).mp read]
  · rcases (readDefaulted_eq_some_iff _ _ _ _ _).mp htext with ⟨missing, -⟩ | ⟨w, there, read⟩
    · rw [missing] at found
      cases found
    · obtain rfl : w = v := Option.some.inj (there.symm.trans found)
      simp [CommentTag.fields, (Json.text?_eq_some_iff w text).mp read]
  · simp [CommentTag.fields, readNullable_text_written "param" members param hparam v found nonnull]

/-- What is written for an entry has all that the entry has exactly if the entry is an object of the
fields of a tag: other members, and the entries that list their fields in an array, are lost. -/
theorem CommentTag.survives_iff (entry : Json) (t : CommentTag)
    (h : CommentTag.ofJson? entry = some t) : entry.Survives t.toJson ↔ PlainTag entry := by
  rw [CommentTag.toJson_eq]
  constructor
  · intro survives
    cases entry with
    | obj members =>
      refine ⟨members, rfl, fun name v found nonnull => ?_⟩
      obtain ⟨w, there, -⟩ := (Json.Survives.obj_iff _ _).mp survives name v found nonnull
      exact List.mem_map_of_mem (f := Prod.fst) (mem_of_get?_fields t.fields name w there)
    | arr => cases survives
    | null | bool | num | str => cases h
  · rintro ⟨members, rfl, plain⟩
    refine (Json.Survives.obj_iff _ _).mpr fun name v found nonnull => ⟨v, ?_, .refl v⟩
    have field :=
      CommentTag.mem_fields members t h name v (plain name v found nonnull) found nonnull
    exact field?_fields t.fields (by simp [CommentTag.fields]) name (some v) field

/-! ### Comments -/

/-- The entries of the tags of a comment. -/
def tagEntries (comment : Json) : List Json := ((comment.field? "tags").bind Json.items?).getD []

/-- Every member of a comment is in what is written for it, but for those that are `null` and for a
list of tags that is empty. -/
def CarriedThrough (comment written : Json) : Prop :=
  ∀ name v, comment.field? name = some v → v ≠ .null → ¬(name = "tags" ∧ v = .arr []) →
    ∃ w, written.field? name = some w ∧ v.Survives w

/-- The fields of a comment are read from these members. -/
structure Comment.ReadFrom (members : Assoc Json) (c : Comment) : Prop where
  shortText : readNullable "shortText" Json.text? members = some c.shortText
  text : readNullable "text" Json.text? members = some c.text
  returns : readNullable "returns" Json.text? members = some c.returns
  tags : readDefaulted "tags" [] (readList CommentTag.ofJson?) members = some c.tags
  extra : c.extra = others Comment.fieldNames members

theorem Comment.readFrom_of_ofJson? (v : Json) (c : Comment) (h : Comment.ofJson? v = some c) :
    ∃ members, v = .obj members ∧ c.ReadFrom members := by
  cases v with
  | obj members =>
    rw [Comment.ofJson?_obj] at h
    obtain ⟨-, h⟩ := Option.ite_none_right_eq_some.mp h
    obtain ⟨shortText, hshort, h⟩ := Option.bind_eq_some_iff.mp h
    obtain ⟨text, htext, h⟩ := Option.bind_eq_some_iff.mp h
    obtain ⟨returns, hreturns, h⟩ := Option.bind_eq_some_iff.mp h
    obtain ⟨tags, htags, h⟩ := Option.bind_eq_some_iff.mp h
    obtain rfl := Option.some.inj h
    exact ⟨members, rfl, hshort, htext, hreturns, htags, rfl⟩
  | null | bool | num | str | arr => cases h

/-- The members of a comment beside its tags are written as they stand. -/
theorem Comment.field?_toJson (v : Json) (c : Comment) (h : Comment.ofJson? v = some c)
    (unique : v.uniqueKeys = true) (name : String) (other : name ≠ "tags") (value : Json)
    (found : v.field? name = some value) (nonnull : value ≠ .null) :
    c.toJson.field? name = some value := by
  obtain ⟨members, rfl, r⟩ := Comment.readFrom_of_ofJson? v c h
  have apart : Apart Comment.fieldNames c.extra := r.extra ▸ apart_others _ members
  rw [Comment.toJson_eq]
  by_cases field : name ∈ Comment.fieldNames
  · refine get?_written _ _ (by simp [Comment.fields]) name _ ?_ (apart.get?_eq_none _ _ name field)
    simp only [Comment.fieldNames, List.mem_cons, List.not_mem_nil, or_false, other] at field
    rcases field with rfl | rfl | rfl
    · simp [Comment.fields, readNullable_text_written _ _ _ r.shortText value found nonnull]
    · simp [Comment.fields, readNullable_text_written _ _ _ r.text value found nonnull]
    · simp [Comment.fields, readNullable_text_written _ _ _ r.returns value found nonnull]
  · have keys := ((Json.uniqueKeys_obj_iff members).mp unique).1
    have kept : Assoc.get? name c.extra = some value := by
      rw [r.extra, get?_others Comment.fieldNames members keys name field]
      exact found
    exact (get?_written_of_not_mem c.fields c.extra name field).trans kept

/-- The entries of the tags of a comment are read one by one, and written if there are any. -/
theorem Comment.tags_toJson (v : Json) (c : Comment) (h : Comment.ofJson? v = some c) :
    (∀ tags, v.field? "tags" = some tags → tags = .arr (tagEntries v)) ∧
      List.Forall₂ (fun entry t => CommentTag.ofJson? entry = some t) (tagEntries v) c.tags ∧
      c.toJson.field? "tags" =
        if tagEntries v = [] then none else some (.arr (c.tags.map CommentTag.toJson)) := by
  obtain ⟨members, rfl, r⟩ := Comment.readFrom_of_ofJson? v c h
  have apart : Apart Comment.fieldNames c.extra := r.extra ▸ apart_others _ members
  have there : c.toJson.field? "tags" =
      if c.tags.isEmpty then none else some (.arr (c.tags.map CommentTag.toJson)) := by
    rw [Comment.toJson_eq]
    exact get?_written c.fields c.extra (by simp [Comment.fields]) "tags" _
      (by simp [Comment.fields]) (apart.get?_eq_none _ _ "tags" (by simp [Comment.fieldNames]))
  rcases (readDefaulted_eq_some_iff _ _ _ _ _).mp r.tags with ⟨missing, none⟩ | ⟨tags, found, read⟩
  · have entries : tagEntries (.obj members) = [] := by simp [tagEntries, Json.field?, missing]
    refine ⟨fun tags found => ?_, ?_, ?_⟩
    · rw [Json.field?, missing] at found
      cases found
    · rw [entries, none]
      exact .nil
    · rw [there, entries, none]
      rfl
  · obtain ⟨items, rfl, each⟩ := (readList_eq_some_iff _ _ _).mp read
    have entries : tagEntries (.obj members) = items := by
      simp [tagEntries, Json.field?, found, Json.items?]
    refine ⟨fun tags again => ?_, entries ▸ each, ?_⟩
    · rw [entries, ← Option.some.inj (found.symm.trans again)]
    · have same : c.tags.isEmpty = true ↔ items = [] := by
        rw [List.isEmpty_iff_length_eq_zero, ← each.length_eq, List.length_eq_zero_iff]
      rw [there, entries]
      simp only [same]

/-- The entries of a list survive as the tags read from them exactly if all of them are plain. -/
theorem CommentTag.forall₂_survives_iff (entries : List Json) (tags : List CommentTag)
    (each : List.Forall₂ (fun entry t => CommentTag.ofJson? entry = some t) entries tags) :
    List.Forall₂ Json.Survives entries (tags.map CommentTag.toJson) ↔
      ∀ entry ∈ entries, PlainTag entry := by
  induction each with
  | nil => simp
  | cons read _ ih => simp [CommentTag.survives_iff _ _ read, ih]

/-- A comment is carried through exactly when each entry of its tags is an object of the fields of a
tag. -/
theorem Comment.carriedThrough_iff (v : Json) (c : Comment) (h : Comment.ofJson? v = some c)
    (unique : v.uniqueKeys = true) :
    CarriedThrough v c.toJson ↔ ∀ entry ∈ tagEntries v, PlainTag entry := by
  obtain ⟨listed, each, there⟩ := Comment.tags_toJson v c h
  rw [← CommentTag.forall₂_survives_iff _ _ each]
  constructor
  · intro carried
    cases found : v.field? "tags" with
    | none =>
      have none : tagEntries v = [] := by simp [tagEntries, found]
      rw [none] at each ⊢
      simp [List.forall₂_nil_left_iff.mp each]
    | some tags =>
      obtain rfl := listed tags found
      by_cases none : tagEntries v = []
      · rw [none] at each ⊢
        simp [List.forall₂_nil_left_iff.mp each]
      · obtain ⟨w, written, survives⟩ := carried "tags" _ found (by simp) (by simp [none])
        rw [there, if_neg none] at written
        obtain rfl := Option.some.inj written
        exact (Json.Survives.arr_iff _ _).mp survives
  · intro entries name value found nonnull filled
    by_cases tags : name = "tags"
    · subst tags
      obtain rfl := listed value found
      have some : tagEntries v ≠ [] := fun none => filled ⟨rfl, none ▸ rfl⟩
      rw [there, if_neg some]
      exact ⟨_, rfl, (Json.Survives.arr_iff _ _).mpr entries⟩
    · exact ⟨value, c.field?_toJson v h unique name tags value found nonnull, .refl value⟩

/-! ### Documented items -/

/-- What a documentation file has for an item of a reflection that can have a comment. -/
inductive DocumentedBy (item : Json) : Json → Prop
  | declaration (d : Declaration) (read : Declaration.ofJson? item = some d) (r : Registry) :
      DocumentedBy item (d.toBlock r).toJson
  | enumMember (d : Declaration) (read : Declaration.ofJson? item = some d) :
      DocumentedBy item (Serializer.enumMember d).toJson
  | signature (s : Signature) (read : Signature.ofJson? item = some s) :
      DocumentedBy item s.toBlock.toJson
  | constructorSignature (s : Signature) (read : Signature.ofJson? item = some s)
      (b : SignatureBlock) (typed : s.toConstructorBlock? = some b) : DocumentedBy item b.toJson
  | parameter (p : Parameter) (read : Parameter.ofJson? item = some p) :
      DocumentedBy item p.toBlock.toJson

/-- A record that reads its comment under `comment` has the one that stands there. -/
theorem exists_comment {α : Type} {ofJson? : Json → Option α} (comment : α → Option Comment)
    (reads : ∀ members a, ofJson? (.obj members) = some a →
      readNullable "comment" Comment.ofJson? members = some (comment a))
    (item : Json) (a : α) (h : ofJson? item = some a) (v : Json)
    (found : item.field? "comment" = some v) (nonnull : v ≠ .null) :
    ∃ c, comment a = some c ∧ Comment.ofJson? v = some c := by
  cases item with
  | obj members => exact readNullable_of_get? _ _ members _ (reads members a h) v found nonnull
  | null | bool | num | str | arr => cases found

/-- What a documentation file has under `comment` is the comment that was read. -/
theorem DocumentedBy.field?_comment (item block : Json) (documented : DocumentedBy item block)
    (v : Json) (found : item.field? "comment" = some v) (nonnull : v ≠ .null) :
    ∃ c, Comment.ofJson? v = some c ∧ block.field? "comment" = some c.toJson := by
  have declared := exists_comment Declaration.comment fun members d h =>
    ((Declaration.ofJson?_obj_iff members d).mp h).comment
  have signed := exists_comment Signature.comment fun members s h =>
    ((Signature.ofJson?_obj_iff members s).mp h).comment
  cases documented with
  | declaration d read r =>
    obtain ⟨c, there, readC⟩ := declared item d read v found nonnull
    refine ⟨c, readC, (d.toBlock r).field?_of_mem "comment" _ ?_⟩
    simp [Block.fields, Block.heading, (d.heading_toBlock r).2.2, there]
  | enumMember d read =>
    obtain ⟨c, there, readC⟩ := declared item d read v found nonnull
    refine ⟨c, readC, ?_⟩
    rw [EnumMemberBlock.toJson_eq]
    refine field?_fields _ (by simp [EnumMemberBlock.fields]) "comment" _ ?_
    simp [EnumMemberBlock.fields, Serializer.enumMember, there]
  | signature s read =>
    obtain ⟨c, there, readC⟩ := signed item s read v found nonnull
    refine ⟨c, readC, s.toBlock.field?_of_mem "comment" _ ?_⟩
    simp [SignatureBlock.fields, Signature.toBlock, there]
  | constructorSignature s read b typed =>
    obtain ⟨c, there, readC⟩ := signed item s read v found nonnull
    obtain ⟨type, -, rfl⟩ := Option.map_eq_some_iff.mp typed
    refine ⟨c, readC, SignatureBlock.field?_of_mem _ "comment" _ ?_⟩
    simp [SignatureBlock.fields, there]
  | parameter p read =>
    obtain ⟨c, there, readC⟩ := exists_comment Parameter.comment
      (fun members p h => ((Parameter.ofJson?_obj_iff members p).mp h).comment)
      item p read v found nonnull
    refine ⟨c, readC, p.toBlock.field?_of_mem "comment" _ ?_⟩
    simp [ParameterBlock.fields, Parameter.toBlock, there]

/-- A doc comment that is read reaches the documentation file. Its members beside the tags stand
there as they were; the whole comment is carried through exactly when each entry of its tags is an
object of the fields of a tag, whereas what else an entry holds is lost. -/
theorem comment_carried_iff (item block comment : Json) (documented : DocumentedBy item block)
    (found : item.field? "comment" = some comment) (nonnull : comment ≠ .null)
    (unique : comment.uniqueKeys = true) :
    ∃ written, block.field? "comment" = some written ∧
      (∀ name v, name ≠ "tags" → comment.field? name = some v → v ≠ .null →
        written.field? name = some v) ∧
      (CarriedThrough comment written ↔ ∀ entry ∈ tagEntries comment, PlainTag entry) := by
  obtain ⟨c, read, there⟩ := documented.field?_comment item block comment found nonnull
  refine ⟨c.toJson, there, fun name v other found nonnull => ?_, ?_⟩
  · exact c.field?_toJson comment read unique name other v found nonnull
  · exact c.carriedThrough_iff comment read unique

/-- A tag that links to a page. -/
def linkTag : Json :=
  .obj [("tag", .str "see"), ("text", .str "guide"), ("url", .str "guide.html")]

def linkedComment : Json := .obj [("shortText", .str "Reads a page."), ("tags", .arr [linkTag])]

theorem comment_carried_iff_linked :
    let item := Json.obj [("name", .str "read"), ("comment", linkedComment)]
    ∃ d, Declaration.ofJson? item = some d ∧ DocumentedBy item (d.toBlock .default).toJson ∧
      ∃ written, (d.toBlock .default).toJson.field? "comment" = some written ∧
        (∀ name v, name ≠ "tags" → linkedComment.field? name = some v → v ≠ .null →
          written.field? name = some v) ∧
        (CarriedThrough linkedComment written ↔
          ∀ entry ∈ tagEntries linkedComment, PlainTag entry) := by
  intro item
  obtain ⟨d, read⟩ : ∃ d, Declaration.ofJson? item = some d := Option.isSome_iff_exists.mp (by cbv)
  have documented := DocumentedBy.declaration d read .default
  exact ⟨d, read, documented,
    comment_carried_iff item _ linkedComment documented rfl (by simp [linkedComment]) (by cbv)⟩

/-- The page that a tag links to is not in the documentation file. -/
theorem linkedComment_not_carried :
    let item := Json.obj [("name", .str "read"), ("comment", linkedComment)]
    ∃ d, Declaration.ofJson? item = some d ∧
      ∃ written, (d.toBlock .default).toJson.field? "comment" = some written ∧
        ¬CarriedThrough linkedComment written := by
  intro item
  obtain ⟨d, read⟩ : ∃ d, Declaration.ofJson? item = some d := Option.isSome_iff_exists.mp (by cbv)
  obtain ⟨c, readC, there⟩ := (DocumentedBy.declaration d read .default).field?_comment item _
    linkedComment rfl (by simp [linkedComment])
  refine ⟨d, read, c.toJson, there, fun carried => ?_⟩
  have entry : linkTag ∈ tagEntries linkedComment := List.mem_singleton_self linkTag
  obtain ⟨members, same, plain⟩ :=
    (c.carriedThrough_iff linkedComment readC (by cbv)).mp carried linkTag entry
  obtain rfl := Json.obj.inj same
  have lost := plain "url" (.str "guide.html") (by cbv) (by simp)
  simp [CommentTag.fieldNames] at lost

end TsWorkshop
