import TsWorkshop.Proofs.Docs.Spelling

/-!
The kind that a block shows beside the kind by which its declaration is documented. The one is a
text, the other decides which serializer is asked; both come from `kindString` and `kind`, with
different precedence. A label that names a kind names that kind (`Declaration.kindLabel_names`).
-/

namespace TsWorkshop

/-! ### Kinds that are named -/

/-- No name stands for a kind that is not in the table. -/
theorem Kind.ne_other_of_ofName? (name : String) (kind : Kind) (h : ofName? name = some kind) :
    kind ≠ .other := by
  obtain ⟨before, after, listed, -⟩ := List.lookup_eq_some_iff.mp h
  have inside : kind ∈ spellings.map Prod.snd := by simp [listed]
  rintro rfl
  revert inside
  decide

/-- A label is read as its kind, that of other kinds as none. -/
theorem Kind.ofName?_label_eq (kind : Kind) :
    ofName? kind.label = if kind = .other then none else some kind := by
  by_cases unknown : kind = .other
  · rw [if_pos unknown, unknown]
    decide +kernel
  · rw [if_neg unknown, ofName?_label kind unknown]

/-! ### The label of a declaration -/

namespace Declaration

variable (d : Declaration)

theorem kindLabel_of_kindString (label : String) (h : d.kindString = some label) :
    d.kindLabel = label := by
  rw [kindLabel, h]

theorem declaredKind_of_recognized (label : String) (h : d.kindString = some label) (kind : Kind)
    (recognized : Kind.ofName? label = some kind) : d.declaredKind = kind := by
  simp [declaredKind, h, recognized]

theorem declaredKind_of_unrecognized (h : d.kindString.bind Kind.ofName? = none) :
    d.declaredKind = (d.kind.bind RawKind.resolve).getD .other := by
  rw [declaredKind, h, Option.none_or]

/-- Without `kindString` the label is that of the kind, or the text under `kind` if that names no
kind. -/
theorem kindLabel_of_bare (h : d.kindString = none) :
    d.kindLabel = d.declaredKind.label ∨
      ∃ text, d.declaredKind = .other ∧ d.kind = some (.name text) ∧ d.kindLabel = text := by
  rw [kindLabel, h]
  dsimp only
  split
  · next text unknown written => exact Or.inr ⟨_, unknown, written, rfl⟩
  · exact Or.inl rfl

/-- Without `kindString` the label names the kind of the declaration, if that is in the table. -/
theorem ofName?_kindLabel_of_bare (h : d.kindString = none) :
    Kind.ofName? d.kindLabel = if d.declaredKind = .other then none else some d.declaredKind := by
  rcases d.kindLabel_of_bare h with label | ⟨text, unknown, written, label⟩
  · rw [label, Kind.ofName?_label_eq]
  · rw [label, if_pos unknown]
    have resolved := d.declaredKind_of_unrecognized (by rw [h, Option.bind_none])
    rw [unknown, written, Option.bind_some, RawKind.resolve] at resolved
    cases named : Kind.ofName? text with
    | none => rfl
    | some kind =>
      rw [named, Option.getD_some] at resolved
      exact absurd resolved.symm (Kind.ne_other_of_ofName? text kind named)

/-- If the label of a declaration names a kind, the declaration is documented as that kind. If it
names none, then the kind is not in the table, or `kindString` is a text of its own and the kind is
the one under `kind`. -/
theorem kindLabel_names :
    (∀ kind, Kind.ofName? d.kindLabel = some kind → d.declaredKind = kind) ∧
    (Kind.ofName? d.kindLabel = none →
      d.declaredKind = .other ∨
        ∃ label, d.kindString = some label ∧ Kind.ofName? label = none ∧
          d.kind.bind RawKind.resolve = some d.declaredKind) := by
  cases spelled : d.kindString with
  | none =>
    have named := d.ofName?_kindLabel_of_bare spelled
    constructor
    · intro kind h
      rw [named, Option.ite_none_left_eq_some] at h
      exact Option.some.inj h.2
    · intro h
      by_contra known
      rw [named, if_neg fun other => known (Or.inl other)] at h
      cases h
  | some label =>
    rw [d.kindLabel_of_kindString label spelled]
    refine ⟨d.declaredKind_of_recognized label spelled, fun unrecognized => ?_⟩
    have unnamed : d.kindString.bind Kind.ofName? = none := by
      rw [spelled, Option.bind_some, unrecognized]
    have resolved := d.declaredKind_of_unrecognized unnamed
    cases raw : d.kind.bind RawKind.resolve with
    | none => exact Or.inl (by rw [resolved, raw, Option.getD_none])
    | some kind =>
      refine Or.inr ⟨label, rfl, unrecognized, ?_⟩
      rw [resolved, raw, Option.getD_some]

/-- A function that is called a decorator, and an alias whose kind is spelled as an identifier. -/
theorem kindLabel_names_decorator :
    let decorator : Declaration :=
      { name := "sealed", kind := some (.bits 64), kindString := some "Decorator" }
    let mode : Declaration := { name := "Mode", kind := some (.name "type_alias") }
    Kind.ofName? decorator.kindLabel = none ∧
      (decorator.declaredKind = .other ∨
        ∃ label, decorator.kindString = some label ∧ Kind.ofName? label = none ∧
          decorator.kind.bind RawKind.resolve = some decorator.declaredKind) ∧
      Kind.ofName? mode.kindLabel = some .typeAlias ∧ mode.declaredKind = .typeAlias := by
  intro decorator mode
  have unrecognized : Kind.ofName? decorator.kindLabel = none := by decide +kernel
  have recognized : Kind.ofName? mode.kindLabel = some .typeAlias := by decide +kernel
  exact ⟨unrecognized, decorator.kindLabel_names.2 unrecognized, recognized,
    mode.kindLabel_names.1 .typeAlias recognized⟩

end Declaration

end TsWorkshop
