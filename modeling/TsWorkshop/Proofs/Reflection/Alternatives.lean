import TsWorkshop.Proofs.Text.Pieces
import TsWorkshop.Reflection.Render

/-!
Unions in unions. The members of a union are filtered and joined as texts, so a member that is a
union is filtered before its members are. That makes no difference: a joined text is blank exactly
if all its pieces are (`Text.allBlank_joinFilled`), and pieces may be joined in two steps
(`Text.joinFilled_nested`). A union is therefore written as its alternatives, the types that are no
unions, however deep they stand (`Descriptor.render_union_flattened`).
-/

namespace TsWorkshop

/-! ### Pieces that are not blank -/

namespace Text

/-- The pieces that are not blank, with `sep` between neighbours. -/
def joinFilled (sep : String) (pieces : List String) : String :=
  join sep (pieces.filter fun piece => !allBlank piece)

theorem allBlank_append (s t : String) : allBlank (s ++ t) = (allBlank s && allBlank t) := by
  simp [allBlank]

theorem joinFilled_of_allBlank (sep : String) (pieces : List String)
    (h : pieces.all allBlank = true) : joinFilled sep pieces = "" := by
  have none : pieces.filter (fun piece => !allBlank piece) = [] := by
    refine List.filter_eq_nil_iff.mpr fun piece inside => ?_
    simp [List.all_eq_true.mp h piece inside]
  rw [joinFilled, none, join]

/-- The first piece that is not blank is part of the text. -/
theorem allBlank_joinFilled (sep : String) (pieces : List String) :
    allBlank (joinFilled sep pieces) = pieces.all allBlank := by
  cases blank : pieces.all allBlank with
  | true => rw [joinFilled_of_allBlank sep pieces blank]; rfl
  | false =>
    obtain ⟨piece, inside, filled⟩ := List.all_eq_false.mp blank
    cases kept : pieces.filter fun piece => !allBlank piece with
    | nil => exact absurd (List.filter_eq_nil_iff.mp kept piece inside) (by simpa using filled)
    | cons first rest =>
      have firstFilled : allBlank first = false := by
        have := List.of_mem_filter (kept ▸ List.mem_cons_self : first ∈ _)
        simpa using this
      rw [joinFilled, kept]
      cases rest with
      | nil => exact firstFilled
      | cons next rest => simp [join, allBlank_append, firstFilled]

/-- Pieces that were put together before are filtered and put together anew. -/
theorem joinFilled_nested (sep : String) (front inner back : List String) :
    joinFilled sep (front ++ [joinFilled sep inner] ++ back) =
      joinFilled sep (front ++ inner ++ back) := by
  have emptied := allBlank_joinFilled sep inner
  cases kept : inner.filter fun piece => !allBlank piece with
  | nil =>
    have blank : joinFilled sep inner = "" := by rw [joinFilled, kept, join]
    have dropped : [joinFilled sep inner].filter (fun piece => !allBlank piece) = [] := by
      rw [blank]
      rfl
    simp only [joinFilled, List.filter_append] at dropped ⊢
    rw [dropped, kept]
  | cons first rest =>
    have filled : allBlank (joinFilled sep inner) = false := by
      have inside : first ∈ inner.filter fun piece => !allBlank piece := by simp [kept]
      rw [emptied, List.all_eq_false]
      exact ⟨first, List.mem_of_mem_filter inside, by simpa using List.of_mem_filter inside⟩
    have same : [joinFilled sep inner].filter (fun piece => !allBlank piece) =
        [joinFilled sep inner] := by
      simp [filled]
    simp only [joinFilled, List.filter_append] at same ⊢
    rw [same]
    exact join_nested sep _ _ _ (by simp [kept])

/-- If each text may be replaced by pieces among any others, all of them may be. -/
theorem joinFilled_flatMap {α : Type} (sep : String) (whole : α → String) (parts : α → List String)
    (xs : List α)
    (each : ∀ x ∈ xs, ∀ front back, joinFilled sep (front ++ [whole x] ++ back) =
      joinFilled sep (front ++ parts x ++ back)) (front back : List String) :
    joinFilled sep (front ++ xs.map whole ++ back) =
      joinFilled sep (front ++ xs.flatMap parts ++ back) := by
  induction xs generalizing front with
  | nil => rfl
  | cons x xs ih =>
    have first := each x (by simp) front (xs.map whole ++ back)
    have others := ih (fun y inside => each y (List.mem_cons_of_mem x inside)) (front ++ parts x)
    simp only [List.map_cons, List.flatMap_cons, List.append_assoc, List.cons_append,
      List.nil_append] at first others ⊢
    rw [first, others]

end Text

/-! ### Alternatives -/

mutual

/-- The alternatives that a type stands for: those of its members, in order, if it is a union, and
else the type itself. -/
def Descriptor.alternatives : Descriptor → List Descriptor
  | .union types _ => alternativesOf types
  | d => [d]

def alternativesOf : List Descriptor → List Descriptor
  | [] => []
  | d :: rest => d.alternatives ++ alternativesOf rest

end

theorem alternativesOf_eq_flatMap (ds : List Descriptor) :
    alternativesOf ds = ds.flatMap Descriptor.alternatives := by
  induction ds with
  | nil => rfl
  | cons d rest ih => simp [alternativesOf, ih]

theorem renderAll_eq_map (ds : List Descriptor) : renderAll ds = ds.map Descriptor.render := by
  induction ds with
  | nil => rfl
  | cons d rest ih => simp [renderAll, ih]

namespace Descriptor

def IsUnion (d : Descriptor) : Prop := ∃ types extra, d = .union types extra

theorem alternatives_union (types : List Descriptor) (extra : Extra) :
    (union types extra).alternatives = types.flatMap alternatives := by
  rw [alternatives, alternativesOf_eq_flatMap]

theorem alternatives_other (d : Descriptor) (other : ¬ d.IsUnion) : d.alternatives = [d] := by
  cases d with
  | union types extra => exact absurd ⟨types, extra, rfl⟩ other
  | _ => rfl

theorem render_union (types : List Descriptor) (extra : Extra) :
    (union types extra).render = Text.joinFilled " | " (types.map render) := by
  rw [render, renderAll_eq_map, Text.joinFilled]

theorem sizeOf_member (member : Descriptor) (types : List Descriptor) (extra : Extra)
    (h : member ∈ types) : sizeOf member < sizeOf (union types extra) := by
  have smaller := List.sizeOf_lt_of_mem h
  simp only [Descriptor.union.sizeOf_spec]
  omega

/-- Induction on a type through unions only: the members of a union come first. -/
theorem induction_on_alternatives {P : Descriptor → Prop} (d : Descriptor)
    (union : ∀ types extra, (∀ member ∈ types, P member) → P (.union types extra))
    (other : ∀ d : Descriptor, ¬ d.IsUnion → P d) : P d := by
  by_cases isUnion : d.IsUnion
  · obtain ⟨types, extra, same⟩ := isUnion
    rw [same]
    refine union types extra fun member inside => ?_
    have : sizeOf member < sizeOf d := same ▸ sizeOf_member member types extra inside
    exact induction_on_alternatives member union other
  · exact other d isUnion
termination_by sizeOf d

theorem not_isUnion_of_mem_alternatives (d leaf : Descriptor) (h : leaf ∈ d.alternatives) :
    ¬ leaf.IsUnion := by
  induction d using induction_on_alternatives with
  | union types extra ih =>
    rw [alternatives_union] at h
    obtain ⟨member, inside, h⟩ := List.mem_flatMap.mp h
    exact ih member inside h
  | other d isOther =>
    rw [alternatives_other d isOther, List.mem_singleton] at h
    rwa [h]

/-- Among other texts, that of a type may be replaced by those of its alternatives. -/
theorem joinFilled_alternatives (d : Descriptor) (front back : List String) :
    Text.joinFilled " | " (front ++ [d.render] ++ back) =
      Text.joinFilled " | " (front ++ d.alternatives.map render ++ back) := by
  induction d using induction_on_alternatives generalizing front back with
  | union types extra ih =>
    rw [render_union, Text.joinFilled_nested, alternatives_union, List.map_flatMap]
    exact Text.joinFilled_flatMap " | " render (fun d => d.alternatives.map render) types ih
      front back
  | other d isOther => rw [alternatives_other d isOther, List.map_singleton]

/-- A union is written as its alternatives, those that are not blank. -/
theorem render_union_alternatives (types : List Descriptor) (extra : Extra) :
    (union types extra).render =
      Text.joinFilled " | " ((union types extra).alternatives.map render) := by
  have whole := Text.joinFilled_flatMap " | " render (fun d => d.alternatives.map render) types
    (fun d _ => d.joinFilled_alternatives) [] []
  simpa [render_union, alternatives_union, List.map_flatMap] using whole

/-- A union among the members of a union is the same as its members in its place. So a union,
however nested, is written as its alternatives in order, those that are blank left out; it is blank exactly
if they all are, and then empty. -/
theorem render_union_flattened :
    (∀ (front inner back : List Descriptor) (extra innerExtra : Extra),
      (union (front ++ [union inner innerExtra] ++ back) extra).render =
        (union (front ++ inner ++ back) extra).render) ∧
    ∀ (types : List Descriptor) (extra : Extra),
      let leaves := (union types extra).alternatives
      (∀ leaf ∈ leaves, ¬ leaf.IsUnion) ∧
      (union types extra).render =
        Text.join " | " ((leaves.map render).filter fun text => !Text.allBlank text) ∧
      (Text.allBlank (union types extra).render = true ↔
        ∀ leaf ∈ leaves, Text.allBlank leaf.render = true) ∧
      ((∀ leaf ∈ leaves, Text.allBlank leaf.render = true) → (union types extra).render = "") := by
  refine ⟨fun front inner back extra innerExtra => ?_, fun types extra => ?_⟩
  · simp only [render_union, List.map_append, List.map_singleton]
    exact Text.joinFilled_nested " | " _ _ _
  · have written := render_union_alternatives types extra
    have blank := Text.allBlank_joinFilled " | " ((union types extra).alternatives.map render)
    have empty := Text.joinFilled_of_allBlank " | " ((union types extra).alternatives.map render)
    rw [← written] at blank empty
    simp only [List.all_map, List.all_eq_true, Function.comp_apply] at blank empty
    refine ⟨fun leaf => not_isUnion_of_mem_alternatives _ leaf, written, ?_, empty⟩
    rw [blank, List.all_eq_true]
    rfl

end Descriptor

end TsWorkshop
