import TsWorkshop.Proofs.Reflection.Reading
import TsWorkshop.Proofs.Reflection.Writing
import TsWorkshop.Proofs.Reflection.Written

/-!
Doc comments and generic parameters are written back. A comment reads the same again, though nothing
is promised about what else its tags held.
-/

namespace TsWorkshop

open Fields

theorem CommentTag.ofJson?_toJson (t : CommentTag) : CommentTag.ofJson? t.toJson = some t := by
  obtain ⟨tag, text, param⟩ := t
  cases param <;>
    simp [CommentTag.toJson, CommentTag.ofJson?, optionalMember, distinct, Assoc.count,
      text?, defaulted, nullableText, nullable, Assoc.get?, Json.text?]

theorem CommentTag.uniqueKeys_toJson (t : CommentTag) : t.toJson.uniqueKeys = true := by
  obtain ⟨tag, text, param⟩ := t
  cases param <;>
    simp [CommentTag.toJson, optionalMember, Json.uniqueKeys, Json.uniqueKeysMembers]

theorem readNullable_text (name : String) (ws : Assoc Json) (text : Option String)
    (h : Assoc.get? name ws = text.map .str) : readNullable name Json.text? ws = some text := by
  cases text <;> simp [readNullable, nullable, readRequired, h, Json.text?]

theorem readList_commentTags (tags : List CommentTag) :
    readList CommentTag.ofJson? (.arr (tags.map CommentTag.toJson)) = some tags := by
  refine (readList_eq_some_iff _ _ _).mpr ⟨_, rfl, ?_⟩
  rw [List.forall₂_map_left_iff, List.forall₂_same]
  exact fun t _ => t.ofJson?_toJson

/-- A comment reads back from what is written for it. -/
theorem Comment.ofJson?_toJson (c : Comment) (apart : Apart Comment.fieldNames c.extra) :
    Comment.ofJson? c.toJson = some c := by
  have nodup : (c.fields.map Prod.fst).Nodup := by simp [Comment.fields]
  have found : ∀ field ∈ c.fields, Assoc.get? field.1 (written c.fields c.extra) = field.2 :=
    fun field member => get?_written c.fields c.extra nodup field.1 field.2 member
      (apart.get?_eq_none _ _ field.1 (List.mem_map_of_mem member))
  have tags : readDefaulted "tags" [] (readList CommentTag.ofJson?) (written c.fields c.extra) =
      some c.tags := by
    have there := found ("tags", if c.tags.isEmpty then none
      else some (.arr (c.tags.map CommentTag.toJson))) (by simp [Comment.fields])
    by_cases empty : c.tags.isEmpty
    · simp_all [readDefaulted, defaulted]
    · rw [if_neg empty] at there
      simp [readDefaulted, defaulted, readRequired, there, readList_commentTags]
  rw [Comment.toJson_eq, Comment.ofJson?_obj,
    if_pos (distinct_of_nodup _ _ (nodup_keys_written _ _ nodup apart)),
    readNullable_text "shortText" _ c.shortText
      (found ("shortText", c.shortText.map .str) (by simp [Comment.fields])),
    readNullable_text "text" _ c.text
      (found ("text", c.text.map .str) (by simp [Comment.fields])),
    readNullable_text "returns" _ c.returns
      (found ("returns", c.returns.map .str) (by simp [Comment.fields])), tags]
  have others := others_written c.fields c.extra apart
  rw [show Comment.fieldNames = c.fields.map Prod.fst from rfl]
  simp [others]

theorem faithful_comment (v : Json) : Faithful .comment Comment.ofJson? Comment.toJson v := by
  intro c h
  cases v with
  | obj members =>
    rw [Comment.ofJson?_obj, Option.ite_none_right_eq_some] at h
    simp only [Option.bind_eq_bind, Option.bind_eq_some_iff, Option.pure_def,
      Option.some.injEq] at h
    obtain ⟨-, shortText, -, text, -, returns, -, tags, -, rfl⟩ := h
    refine ⟨Comment.ofJson?_toJson _ (apart_others _ members), fun _ => Kept.comment _ _,
      fun unique => ?_, fun null => by cases null⟩
    rw [Comment.toJson_eq]
    refine uniqueKeys_rewritten members _ (by simp [Comment.fields]) unique ?_
    intro field member w written
    simp only [Comment.fields, List.mem_cons, List.not_mem_nil, or_false] at member
    rcases member with rfl | rfl | rfl | rfl
    · obtain ⟨s, -, rfl⟩ := Option.map_eq_some_iff.mp written
      rfl
    · obtain ⟨s, -, rfl⟩ := Option.map_eq_some_iff.mp written
      rfl
    · obtain ⟨s, -, rfl⟩ := Option.map_eq_some_iff.mp written
      rfl
    · simp only [Option.ite_none_left_eq_some, Option.some.injEq] at written
      rw [← written.2, Json.uniqueKeys_arr_iff]
      intro item inside
      obtain ⟨tag, -, rfl⟩ := List.mem_map.mp inside
      exact tag.uniqueKeys_toJson
  | null | bool | num | str | arr => cases h

/-! ### Generic parameters -/

theorem faithful_typeParameter (v : Json) :
    Faithful .plain TypeParameter.ofJson? TypeParameter.toJson v := by
  intro p h
  cases v with
  | obj members =>
    rw [TypeParameter.ofJson?_obj, Option.ite_none_right_eq_some] at h
    simp only [Option.bind_eq_bind, Option.bind_eq_some_iff, Option.pure_def,
      Option.some.injEq] at h
    obtain ⟨-, name, hname, rfl⟩ := h
    have named := FieldWritten.required .plain _ _ Json.str _ (fun v _ => faithful_text v) _ hname
    rw [TypeParameter.toJson_eq]
    refine writtenBack_record members _ (by simp [TypeParameter.fields]) .plain _ _ ?_ ?_
    · simpa [TypeParameter.fields] using named.kept .plain .plain _ _ _ _ _ rfl
    · intro ws found unique rest
      have same : others ["name"] ws = others ["name"] members := rest
      rw [TypeParameter.ofJson?_obj, if_pos (distinct_of_nodup _ _ unique),
        named.reread ws (found _ (List.mem_singleton_self _))]
      simp [same]
  | null | bool | num | str | arr => cases h

end TsWorkshop
