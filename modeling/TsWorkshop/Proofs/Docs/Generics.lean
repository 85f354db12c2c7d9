import TsWorkshop.Proofs.Docs.Restated

/-!
The generic parameters of a type alias, which a declaration has under one of two keys, as its block
shows them: under `type_params` and in angle brackets in the text. A block shows what it should
(`ShowsGenerics`) unless the key that is looked at holds an empty list
(`Declaration.showsGenerics_iff`).
-/

namespace TsWorkshop

/-! ### What should be shown -/

namespace Declaration

/-- A declaration with a generic parameter under one of the keys. -/
def HasGenerics (d : Declaration) : Prop :=
  d.typeParameter.getD [] ≠ [] ∨ d.typeParameters.getD [] ≠ []

/-- The names of the generic parameters, under the first key that has some. -/
def parameterNames (d : Declaration) : List String :=
  (match d.typeParameter.getD [] with
    | [] => d.typeParameters.getD []
    | ps => ps).map TypeParameter.name

end Declaration

/-- The text of an alias with a list in angle brackets right after the name. -/
def BracketsAfter (name text : String) : Prop :=
  ∃ list rest, text = "type " ++ name ++ "<" ++ list ++ ">" ++ rest

/-- The block of an alias shows generic parameters, in both places, exactly if the alias has some,
and shows those. -/
structure ShowsGenerics (d : Declaration) (block : Json) : Prop where
  listed : (block.field? "type_params").isSome = true ↔ d.HasGenerics
  names : d.HasGenerics →
    block.field? "type_params" = some (.arr (d.parameterNames.map fun n => .obj [("name", .str n)]))
  brackets : ∃ text, block.field? "as_string" = some (.str text) ∧
    (BracketsAfter d.name text ↔ d.HasGenerics)

/-! ### What is shown -/

/-- The target begins behind the name or behind the brackets, so it is not taken for them. -/
theorem bracketsAfter_iff (name target : String) (names : Option (List String)) :
    BracketsAfter name ("type " ++ name ++ genericsText names ++ " = " ++ target) ↔
      names.isSome = true := by
  cases names with
  | some names =>
    refine iff_of_true ⟨Text.join ", " names, " = " ++ target, ?_⟩ rfl
    simp only [genericsText, String.append_assoc]
  | none =>
    refine iff_of_false ?_ Bool.false_ne_true
    rintro ⟨list, rest, same⟩
    have chars := congrArg String.toList same
    simp [genericsText, List.append_assoc] at chars

theorem typeParamsToJson_inj (as bs : List String) (h : typeParamsToJson as = typeParamsToJson bs) :
    as = bs := by
  refine List.map_injective_iff.mpr (fun a b same => ?_) (Json.arr.inj h)
  simpa using same

namespace Declaration

variable (d : Declaration)

/-- The names that the block shows: those under the first key that is there. -/
def shownNames : Option (List String) := d.generics.map fun ps => ps.map TypeParameter.name

theorem hasGenerics_iff : d.HasGenerics ↔ d.parameterNames ≠ [] := by
  unfold HasGenerics parameterNames
  cases d.typeParameter.getD [] <;> simp

/-- If the key that is looked at holds no empty list, the names are shown if there are any. -/
theorem shownNames_of_ne (filled : d.generics ≠ some []) :
    d.shownNames = if d.parameterNames = [] then none else some d.parameterNames := by
  revert filled
  unfold shownNames generics parameterNames
  rcases d.typeParameter with _ | (_ | ⟨p, ps⟩)
  · rcases d.typeParameters with _ | (_ | ⟨p, ps⟩) <;> simp
  · simp
  · simp

section Block

variable (r : Registry) (documented : r.find? .typeAlias = some Serializer.typeAlias)
  (kind : d.declaredKind = .typeAlias)

include documented kind

theorem fragment_typeAlias : (d.toBlock r).fragment =
    some (.typeAlias d.shownNames (.describe d.type)
      ("type " ++ d.name ++ genericsText d.shownNames ++ " = " ++ renderOptional d.type)) := by
  rw [toBlock_other r d (by rw [kind]; rfl), kind, documented, Option.map_some]
  rfl

theorem field?_typeParams :
    (d.toBlock r).toJson.field? "type_params" = d.shownNames.map typeParamsToJson := by
  refine (d.toBlock r).field?_of_mem _ _ ?_
  simp [Block.fields, d.fragment_typeAlias r documented kind, Fragment.fields]

theorem field?_asString : (d.toBlock r).toJson.field? "as_string" = some
    (.str ("type " ++ d.name ++ genericsText d.shownNames ++ " = " ++ renderOptional d.type)) := by
  refine (d.toBlock r).field?_of_mem _ _ ?_
  simp [Block.fields, d.fragment_typeAlias r documented kind, Fragment.fields]

/-- An empty list is shown, although it is no generic parameter and may hide some. -/
theorem not_showsGenerics (empty : d.generics = some []) :
    ¬ShowsGenerics d (d.toBlock r).toJson := by
  intro shows
  have field : (d.toBlock r).toJson.field? "type_params" = some (typeParamsToJson []) := by
    rw [d.field?_typeParams r documented kind, shownNames, empty]
    rfl
  have some : d.HasGenerics := shows.listed.mp (by rw [field]; rfl)
  have none : [] = d.parameterNames :=
    typeParamsToJson_inj _ _ (Option.some.inj (field.symm.trans (shows.names some)))
  exact d.hasGenerics_iff.mp some none.symm

theorem showsGenerics_of_ne (filled : d.generics ≠ some []) :
    ShowsGenerics d (d.toBlock r).toJson := by
  have shown := d.shownNames_of_ne filled
  have there : d.shownNames.isSome = true ↔ d.HasGenerics := by
    rw [shown, d.hasGenerics_iff]
    by_cases none : d.parameterNames = [] <;> simp [none]
  refine ⟨?_, fun some => ?_, ⟨_, d.field?_asString r documented kind, ?_⟩⟩
  · rw [d.field?_typeParams r documented kind, Option.isSome_map, there]
  · rw [d.field?_typeParams r documented kind, shown, if_neg (d.hasGenerics_iff.mp some)]
    rfl
  · exact (bracketsAfter_iff _ _ _).trans there

/-- The block of an alias shows the names under the first key that is there, both in its list and in
its text. It shows what it should unless that key holds an empty list, which is shown in place of
what may stand under the other key. -/
theorem showsGenerics_iff :
    (d.toBlock r).toJson.field? "type_params" = d.shownNames.map typeParamsToJson ∧
    (d.toBlock r).toJson.field? "as_string" = some
      (.str ("type " ++ d.name ++ genericsText d.shownNames ++ " = " ++ renderOptional d.type)) ∧
    (ShowsGenerics d (d.toBlock r).toJson ↔
      ¬(d.typeParameter = some [] ∨ d.typeParameter = none ∧ d.typeParameters = some [])) := by
  refine ⟨d.field?_typeParams r documented kind, d.field?_asString r documented kind, ?_⟩
  rw [← Option.or_eq_some_iff]
  constructor
  · exact fun shows empty => d.not_showsGenerics r documented kind empty shows
  · exact d.showsGenerics_of_ne r documented kind

end Block

/-- An alias with two parameters, as it is written by newer releases. -/
theorem showsGenerics_iff_pair :
    let pair : Declaration :=
      { name := "Pair", kindString := some "Type alias"
        typeParameters := some [{ name := "K" }, { name := "V" }]
        type := some (.intrinsic "object" []) }
    (pair.toBlock .default).toJson.field? "type_params" =
        some (.arr [.obj [("name", .str "K")], .obj [("name", .str "V")]]) ∧
      (pair.toBlock .default).toJson.field? "as_string" =
        some (.str "type Pair<K, V> = object") ∧
      ShowsGenerics pair (pair.toBlock .default).toJson := by
  intro pair
  have kind : pair.declaredKind = .typeAlias := by decide +kernel
  obtain ⟨listed, text, shows⟩ := pair.showsGenerics_iff .default rfl kind
  exact ⟨listed, text, shows.mpr (by simp [pair])⟩

end Declaration

/-- An alias of `string` with an empty list of generic parameters. -/
def emptyGenerics : Json :=
  .obj [("name", .str "Mode"), ("kindString", .str "Type alias"), ("typeParameter", .arr []),
    ("type", .obj [("type", .str "intrinsic"), ("name", .str "string")])]

/-- The list is in the block, and the text has brackets around nothing. -/
theorem emptyGenerics_shown :
    ∃ d, Declaration.ofJson? emptyGenerics = some d ∧ d.declaredKind = .typeAlias ∧
      ¬d.HasGenerics ∧ ¬ShowsGenerics d (d.toBlock .default).toJson ∧
      (d.toBlock .default).toJson.field? "type_params" = some (.arr []) ∧
      (d.toBlock .default).toJson.field? "as_string" = some (.str "type Mode<> = string") := by
  let mode : Declaration :=
    { name := "Mode", kindString := some "Type alias", typeParameter := some []
      type := some (.intrinsic "string" []) }
  have kind : mode.declaredKind = .typeAlias := by decide +kernel
  refine ⟨mode, by cbv, kind, by simp [mode, Declaration.HasGenerics], ?_, ?_, ?_⟩
  · exact mode.not_showsGenerics .default rfl kind rfl
  · exact mode.field?_typeParams .default rfl kind
  · exact mode.field?_asString .default rfl kind

end TsWorkshop
