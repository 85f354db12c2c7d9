import TsWorkshop.Proofs.Reflection.Revision
import TsWorkshop.Reflection.Render

/-!
What a text of a type does not show: ids, the members that a record keeps without a field, and their
order. A revised descriptor has the same text (`Descriptor.render_revised`), and so has one with
sorted members.
-/

namespace TsWorkshop

variable (e : Revision)

mutual

theorem Descriptor.render_revised : ∀ d : Descriptor, (d.revised e).render = d.render
  | .array element _ => by simp [Descriptor.revised, Descriptor.render, element.render_revised]
  | .conditional check base whenTrue whenFalse _ => by
    simp [Descriptor.revised, Descriptor.render, check.render_revised, base.render_revised,
      whenTrue.render_revised, whenFalse.render_revised]
  | .indexedAccess object index _ => by
    simp [Descriptor.revised, Descriptor.render, object.render_revised, index.render_revised]
  | .intersection types _ => by
    simp [Descriptor.revised, Descriptor.render, renderAll_revised types]
  | .predicate _ _ (some target) _ => by simp [Descriptor.render, target.render_revised]
  | .reference _ _ (some arguments) _ _ _ => by
    simp [Descriptor.render, renderAll_revised arguments]
  | .reflection (some declaration) _ => by
    simp [Descriptor.render, declaration.renderInline_revised]
  | .tuple (some elements) _ => by simp [Descriptor.render, renderAll_revised elements]
  | .typeOperator _ target _ => by
    simp [Descriptor.revised, Descriptor.render, target.render_revised]
  | .union types _ => by simp [Descriptor.revised, Descriptor.render, renderAll_revised types]
  | .inferred _ _ | .intrinsic _ _ | .predicate _ _ none _ | .reference _ _ none _ _ _
  | .reflection none _ | .literal _ _ | .tuple none _ | .unknown _ _ | .unrecognized _ => by
    simp [Descriptor.revised, Descriptor.render]

theorem renderAll_revised : ∀ ds : List Descriptor,
    renderAll (ds.map (Descriptor.revised e)) = renderAll ds
  | [] => rfl
  | d :: rest => by simp [renderAll, d.render_revised, renderAll_revised rest]

theorem Declaration.renderInline_revised : ∀ d : Declaration,
    (d.revised e).renderInline = d.renderInline
  | ⟨_, _, _, _, _, some (child :: rest), _, _, _, _, _, _, _, _⟩ => by
    have members := renderMembers_revised (child :: rest)
    rw [List.map_cons] at members
    rw [Declaration.revised_eq]
    simp only [Option.map_some, List.map_cons, Declaration.renderInline, members]
  | ⟨_, _, _, _, _, none, some (signature :: rest), _, _, _, _, _, _, _⟩
  | ⟨_, _, _, _, _, some [], some (signature :: rest), _, _, _, _, _, _, _⟩ => by
    have callables := renderCallables_revised (signature :: rest)
    rw [List.map_cons] at callables
    rw [Declaration.revised_eq]
    simp only [Option.map_some, Option.map_none, List.map_cons, List.map_nil,
      Declaration.renderInline, callables]
  | ⟨_, _, _, _, _, none, none, _, _, _, _, _, _, _⟩
  | ⟨_, _, _, _, _, some [], none, _, _, _, _, _, _, _⟩
  | ⟨_, _, _, _, _, none, some [], _, _, _, _, _, _, _⟩
  | ⟨_, _, _, _, _, some [], some [], _, _, _, _, _, _, _⟩ => by
    simp [Declaration.revised_eq, Declaration.renderInline]

theorem renderMembers_revised : ∀ ds : List Declaration,
    renderMembers (ds.map (Declaration.revised e)) = renderMembers ds
  | [] => rfl
  | ⟨_, _, _, _, _, _, _, _, _, none, _, _, _, _⟩ :: rest => by
    simp [renderMembers, Declaration.revised_eq, renderMembers_revised rest]
  | ⟨_, _, _, _, _, _, _, _, _, some type, _, _, _, _⟩ :: rest => by
    simp [renderMembers, Declaration.revised_eq, type.render_revised, renderMembers_revised rest]

theorem Signature.renderCallable_revised : ∀ s : Signature,
    (s.revised e).renderCallable = s.renderCallable
  | ⟨_, _, _, _, _, parameters, type, _⟩ => by
    have types : ∀ t, type = some t → (t.revised e).render = t.render := by
      rintro t rfl
      exact t.render_revised
    have listed : ∀ ps, parameters = some ps →
        renderParameters (ps.map (Parameter.revised e)) = renderParameters ps := by
      rintro ps rfl
      exact renderParameters_revised ps
    cases parameters <;> cases type <;>
      simp [Signature.revised_eq, Signature.renderCallable, types, listed]

theorem renderCallables_revised : ∀ ss : List Signature,
    renderCallables (ss.map (Signature.revised e)) = renderCallables ss
  | [] => rfl
  | s :: rest => by
    simp [renderCallables, s.renderCallable_revised, renderCallables_revised rest]

theorem renderParameters_revised : ∀ ps : List Parameter,
    renderParameters (ps.map (Parameter.revised e)) = renderParameters ps
  | [] => rfl
  | ⟨_, _, none, _, _, _⟩ :: rest => by
    simp [renderParameters, Parameter.revised_eq, renderParameters_revised rest]
  | ⟨_, _, some type, _, _, _⟩ :: rest => by
    simp [renderParameters, Parameter.revised_eq, type.render_revised,
      renderParameters_revised rest]

end

theorem renderOptional_revised (type : Option Descriptor) :
    renderOptional (type.map (Descriptor.revised e)) = renderOptional type := by
  cases type with
  | none => rfl
  | some d => exact d.render_revised e

/-- The order of the members that a record keeps does not show. -/
theorem Descriptor.render_canonical (d : Descriptor) : d.canonical.render = d.render := by
  rw [d.canonical_eq_revised, d.render_revised]

end TsWorkshop
