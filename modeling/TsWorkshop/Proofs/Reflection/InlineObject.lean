import TsWorkshop.Proofs.Docs.Restated
import TsWorkshop.Proofs.Text.Pieces

/-!
Inline object types. The members of an object type are its typed children: each name once, in the
order in which the names first have a type, with the last type that they have (`Assoc.Folded`).
Signatures matter only where there are no children, and `{}` is written only where there is neither
(`Descriptor.render_inline`).
-/

namespace TsWorkshop

/-- The children that have a type, by name, in order. -/
def typedChildren (children : List Declaration) : Assoc Descriptor :=
  children.filterMap fun child => child.type.map fun type => (child.name, type)

/-- Members with their types, one a line, in braces. -/
def objectText (members : Assoc Descriptor) : String :=
  "\x7b\n" ++ Text.join ",\n" (members.map fun member => member.1 ++ ": " ++ member.2.render) ++
    "\n\x7d"

theorem renderMembers_eq_map (children : List Declaration) :
    renderMembers children =
      (typedChildren children).map fun member => (member.1, member.2.render) := by
  induction children with
  | nil => rfl
  | cons child rest ih =>
    obtain ⟨id, name, kind, kindString, comment, children, signatures, get, set, type, _⟩ := child
    cases type with
    | none => exact ih
    | some type => exact congrArg (List.cons _) ih

/-! ### The empty object -/

theorem objectText_ne_empty (members : Assoc Descriptor) : objectText members ≠ "\x7b\x7d" := by
  intro same
  have second := congrArg (fun text => text.toList[1]?) same
  simp [objectText] at second

/-- A function type opens with its parameters. -/
theorem Signature.exists_renderCallable (s : Signature) :
    ∃ rest, s.renderCallable = "(" ++ rest := by
  rw [s.renderCallable_eq, String.append_assoc, String.append_assoc]
  exact ⟨_, rfl⟩

theorem join_callables_ne_empty (signatures : List Signature) (some : signatures ≠ []) :
    Text.join "\n" (signatures.map Signature.renderCallable) ≠ "\x7b\x7d" := by
  obtain ⟨first, others, rfl⟩ := List.exists_cons_of_ne_nil some
  obtain ⟨rest, opens⟩ := first.exists_renderCallable
  rw [List.map_cons, opens, Text.join_append_left]
  intro same
  have first := congrArg (fun text => text.toList[0]?) same
  simp at first

namespace Descriptor

/-- With children, an inline declaration is written as the object of its typed children. -/
theorem render_object (d : Declaration) (extra : Extra) (children : d.members ≠ []) :
    (reflection (some d) extra).render = objectText (Assoc.merged (typedChildren d.members)) := by
  obtain ⟨id, name, kind, kindString, comment, listed, _⟩ := d
  rcases listed with _ | (_ | ⟨child, rest⟩)
  · exact absurd rfl children
  · exact absurd rfl children
  · have merged := Assoc.merged_map render (typedChildren (child :: rest))
    rw [← renderMembers_eq_map] at merged
    rw [render, Declaration.renderInline, merged, List.map_map]
    rfl

theorem render_bare (d : Declaration) (extra : Extra) (childless : d.members = [])
    (uncallable : d.signatures.getD [] = []) : (reflection (some d) extra).render = "\x7b\x7d" := by
  obtain ⟨id, name, kind, kindString, comment, children, signatures, _⟩ := d
  rcases children with _ | (_ | ⟨child, rest⟩)
  case some.cons => cases childless
  all_goals
    rcases signatures with _ | (_ | ⟨s, rest⟩)
    case some.cons => cases uncallable
    all_goals rfl

theorem render_eq_empty_iff (declaration : Option Declaration) (extra : Extra) :
    (reflection declaration extra).render = "\x7b\x7d" ↔
      ∀ d, declaration = some d → d.members = [] ∧ d.signatures.getD [] = [] := by
  cases declaration with
  | none => simp [render]
  | some d =>
    simp only [Option.some.injEq, forall_eq']
    constructor
    · intro empty
      by_cases childless : d.members = []
      · refine ⟨childless, ?_⟩
        by_contra callable
        rw [render_callable d extra childless callable] at empty
        exact join_callables_ne_empty _ callable empty
      · rw [render_object d extra childless] at empty
        exact absurd empty (objectText_ne_empty _)
    · intro bare
      exact render_bare d extra bare.1 bare.2

/-- An inline declaration with children is written as an object: there is one way to list each name
of a typed child once, in the order in which the names first have a type, with the last type of
each, and the object has these members. Its signatures do not show. The empty object stands for
nothing else than a declaration without children and signatures, or for none. -/
theorem render_inline :
    (∀ (d : Declaration) (extra : Extra), d.members ≠ [] →
      (∃ members, (∀ other, Assoc.Folded (typedChildren d.members) other ↔ other = members) ∧
        (reflection (some d) extra).render =
          "\x7b\n" ++ Text.join ",\n" (members.map fun member =>
            member.1 ++ ": " ++ member.2.render) ++ "\n\x7d") ∧
      ∀ signatures, (reflection (some { d with signatures }) extra).render =
        (reflection (some d) extra).render) ∧
    ∀ (declaration : Option Declaration) (extra : Extra),
      (reflection declaration extra).render = "\x7b\x7d" ↔
        ∀ d, declaration = some d → d.members = [] ∧ d.signatures.getD [] = [] := by
  refine ⟨fun d extra children => ⟨?_, fun signatures => ?_⟩, render_eq_empty_iff⟩
  · have folded := Assoc.folded_merged (typedChildren d.members)
    refine ⟨Assoc.merged (typedChildren d.members), fun other => ?_, render_object d extra children⟩
    exact ⟨fun h => h.unique _ _ _ folded, fun same => same ▸ folded⟩
  · rw [render_object d extra children, render_object { d with signatures } extra children]
    rfl

/-- The member `b` has no type where it first stands, and `a` has two. -/
theorem render_inline_overwritten :
    let child := fun (name : String) (type : Option Descriptor) =>
      { Declaration.ofKind name .property with type }
    let object :=
      { Declaration.ofKind "__type" .typeLiteral with
        children := some
          [child "a" (some (.intrinsic "string" [])), child "b" none,
            child "c" (some (.intrinsic "number" [])), child "a" (some (.intrinsic "bigint" [])),
            child "b" (some (.intrinsic "boolean" [])), child "a" none]
        signatures := some [{ name := "__call" }] }
    object.members ≠ [] ∧
      (reflection (some object) []).render = "\x7b\na: bigint,\nc: number,\nb: boolean\n\x7d" := by
  intro child object
  have some : object.members ≠ [] := List.cons_ne_nil _ _
  obtain ⟨⟨members, only, text⟩, -⟩ := render_inline.1 object [] some
  obtain rfl := (only _).mp (Assoc.folded_merged (typedChildren object.members))
  refine ⟨some, text.trans ?_⟩
  decide +kernel

end Descriptor

end TsWorkshop
