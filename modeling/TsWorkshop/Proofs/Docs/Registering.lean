import Mathlib.Data.List.Induction
import TsWorkshop.Proofs.Docs.Walk

/-!
What a registration changes. The walk asks a registry only for the kinds of walked declarations that
are no containers, so registries that agree on these document a declaration alike
(`Declaration.toBlock_of_agree`). `Rewritten` says what registering a serializer makes of a block:
the fragments of the walked declarations of its kind are its own, and everything else stays.
-/

namespace TsWorkshop

namespace Registry

/-- Both registries write the same fragments for a kind, or both write none. -/
def AgreeOn (r r' : Registry) (kind : Kind) : Prop :=
  (r.find? kind).map Serializer.fragment = (r'.find? kind).map Serializer.fragment

theorem find?_register_self (r : Registry) (kind : Kind) (s : Serializer) :
    (r.register kind s).find? kind = some s := if_pos rfl

theorem find?_register_of_ne (r : Registry) (kind asked : Kind) (s : Serializer)
    (other : asked ≠ kind) : (r.register kind s).find? asked = r.find? asked := if_neg other

/-- Registrations of different kinds can be made in either order. -/
theorem register_comm (r : Registry) (kind kind' : Kind) (s s' : Serializer)
    (different : kind ≠ kind') :
    (r.register kind s).register kind' s' = (r.register kind' s').register kind s := by
  unfold register
  congr 1
  funext asked
  by_cases here : asked = kind
  · simp [here, different]
  · simp [here]

/-- Registers serializers one after another. -/
def registerAll (r : Registry) (calls : List (Kind × Serializer)) : Registry :=
  calls.foldl (fun r (kind, s) => r.register kind s) r

/-- The serializer that is registered last for a kind. -/
def lastFor (kind : Kind) (calls : List (Kind × Serializer)) : Option Serializer :=
  calls.reverse.lookup kind

/-- After several registrations a kind has the last serializer registered for it, or else the one
that it had. -/
theorem find?_registerAll (r : Registry) (calls : List (Kind × Serializer)) (kind : Kind) :
    (r.registerAll calls).find? kind = (lastFor kind calls).or (r.find? kind) := by
  induction calls using List.reverseRecOn with
  | nil => rfl
  | append_singleton calls call ih =>
    obtain ⟨called, s⟩ := call
    have last : r.registerAll (calls ++ [(called, s)]) = (r.registerAll calls).register called s :=
      List.foldl_append
    rw [last, lastFor, List.reverse_concat]
    by_cases here : kind = called
    · rw [here, find?_register_self, List.lookup_cons_self, Option.some_or]
    · have other : (kind == called) = false := by simpa using here
      rw [find?_register_of_ne _ _ _ _ here, ih, List.lookup_cons, other]
      rfl

end Registry

/-! ### Registries that agree -/

/-- Only the kinds of walked declarations that are no containers are looked up. -/
theorem Declaration.toBlock_of_agree (r r' : Registry) (d : Declaration)
    (agree : ∀ w ∈ d.walked, w.declaredKind.isContainer = false → r.AgreeOn r' w.declaredKind) :
    d.toBlock r = d.toBlock r' := by
  induction d using Declaration.induction_on_members with
  | step d ih =>
    cases kind : d.declaredKind.isContainer with
    | true =>
      have members : blocksOf r d.members = blocksOf r' d.members := by
        rw [blocksOf_eq_map, blocksOf_eq_map]
        refine List.map_congr_left fun member inside => ih member inside fun w walked => agree w ?_
        rw [walked_container d kind, walkedAll_eq_flatMap]
        exact List.mem_cons_of_mem _ (List.mem_flatMap.mpr ⟨member, inside, walked⟩)
      rw [toBlock_container r d kind, toBlock_container r' d kind, members]
    | false =>
      have here : (r.find? d.declaredKind).map Serializer.fragment =
          (r'.find? d.declaredKind).map Serializer.fragment :=
        agree d (by simp [walked_other d kind]) kind
      have applied := congrArg (Option.map fun fragment => fragment d) here
      rw [Option.map_map, Option.map_map] at applied
      rw [toBlock_other r d kind, toBlock_other r' d kind]
      exact congrArg (Block.mk d.name d.kindLabel d.comment) applied

theorem Document.assemble_of_agree (r r' : Registry) (project : Declaration)
    (generatedAt : Timestamp)
    (agree : ∀ kind, kind.isContainer = false → r.AgreeOn r' kind) :
    assemble project r generatedAt = assemble project r' generatedAt := by
  have blocks : blocksOf r project.members = blocksOf r' project.members := by
    rw [blocksOf_eq_map, blocksOf_eq_map]
    exact List.map_congr_left fun d _ => d.toBlock_of_agree r r' fun w _ leaf => agree _ leaf
  rw [assemble, assemble, blocks]

/-! ### One registration -/

/-- What registering `s` for `kind` makes of the block of a declaration, given as the block before
and the block after. -/
inductive Rewritten (kind : Kind) (s : Serializer) : Declaration → Block × Block → Prop
  | here (d : Declaration) (b : Block) (leaf : d.declaredKind.isContainer = false)
      (same : d.declaredKind = kind) :
      Rewritten kind s d (b, { b with fragment := some (s.fragment d) })
  | elsewhere (d : Declaration) (b : Block) (leaf : d.declaredKind.isContainer = false)
      (other : d.declaredKind ≠ kind) : Rewritten kind s d (b, b)
  | empty (d : Declaration) (b : Block) (container : d.declaredKind.isContainer = true)
      (memberless : d.members = []) (bare : b.fragment = none) : Rewritten kind s d (b, b)
  | container (d : Declaration) (b : Block) (changes : List (Block × Block))
      (container : d.declaredKind.isContainer = true)
      (before : b.fragment = some (.container (changes.map Prod.fst)))
      (members : List.Forall₂ (Rewritten kind s) d.members changes) :
      Rewritten kind s d (b, { b with fragment := some (.container (changes.map Prod.snd)) })

/-- The blocks of a declaration before and after a registration. -/
def Declaration.blockChange (r : Registry) (kind : Kind) (s : Serializer) (d : Declaration) :
    Block × Block :=
  (d.toBlock r, d.toBlock (r.register kind s))

theorem map_blockChange (r : Registry) (kind : Kind) (s : Serializer) (ds : List Declaration) :
    (ds.map (Declaration.blockChange r kind s)).map Prod.fst = blocksOf r ds ∧
      (ds.map (Declaration.blockChange r kind s)).map Prod.snd =
        blocksOf (r.register kind s) ds := by
  rw [blocksOf_eq_map, blocksOf_eq_map, List.map_map, List.map_map]
  exact ⟨rfl, rfl⟩

/-- One step of the walk: a registration shows in a block only at its kind. -/
theorem Declaration.rewritten_blockChange (r : Registry) (kind : Kind) (s : Serializer)
    (d : Declaration) : Rewritten kind s d (d.blockChange r kind s) := by
  induction d using Declaration.induction_on_members with
  | step d ih =>
    unfold blockChange
    cases shape : d.declaredKind.isContainer with
    | true =>
      obtain ⟨before, after⟩ := map_blockChange r kind s d.members
      rw [toBlock_container r d shape, toBlock_container _ d shape]
      by_cases memberless : d.members = []
      · rw [if_pos memberless, if_pos memberless]
        exact Rewritten.empty d _ shape memberless rfl
      · rw [if_neg memberless, if_neg memberless, ← before, ← after]
        refine Rewritten.container d _ _ shape rfl ?_
        rw [List.forall₂_map_right_iff, List.forall₂_same]
        exact ih
    | false =>
      rw [toBlock_other r d shape, toBlock_other _ d shape]
      by_cases same : d.declaredKind = kind
      · rw [same, r.find?_register_self]
        exact Rewritten.here d _ shape same
      · rw [r.find?_register_of_ne _ _ _ same]
        exact Rewritten.elsewhere d _ shape same

/-- Registering a serializer is local: it shows in the documentation file only in the fragments of
the walked declarations of its kind, so not at all for a kind of containers. Of several
registrations only the last one for each kind counts, in whatever order the kinds come. -/
theorem assemble_register (project : Declaration) (r : Registry) (generatedAt : Timestamp) :
    (∀ kind s, ∃ changes : List (Block × Block),
      Document.assemble project r generatedAt =
          { generatedAt, children := changes.map Prod.fst } ∧
        Document.assemble project (r.register kind s) generatedAt =
          { generatedAt, children := changes.map Prod.snd } ∧
        List.Forall₂ (Rewritten kind s) project.members changes) ∧
    (∀ kind s, kind.isContainer = true →
      Document.assemble project (r.register kind s) generatedAt =
        Document.assemble project r generatedAt) ∧
    (∀ kind kind' s s', kind ≠ kind' →
      Document.assemble project ((r.register kind s).register kind' s') generatedAt =
        Document.assemble project ((r.register kind' s').register kind s) generatedAt) ∧
    ∀ calls calls' : List (Kind × Serializer),
      (∀ kind, kind.isContainer = false →
        (Registry.lastFor kind calls).map Serializer.fragment =
          (Registry.lastFor kind calls').map Serializer.fragment) →
      Document.assemble project (r.registerAll calls) generatedAt =
        Document.assemble project (r.registerAll calls') generatedAt := by
  refine ⟨fun kind s => ?_, fun kind s container => ?_, fun kind kind' s s' different => ?_,
    fun calls calls' same => ?_⟩
  · obtain ⟨before, after⟩ := map_blockChange r kind s project.members
    refine ⟨project.members.map (Declaration.blockChange r kind s), ?_, ?_, ?_⟩
    · rw [before]
      rfl
    · rw [after]
      rfl
    · rw [List.forall₂_map_right_iff, List.forall₂_same]
      exact fun d _ => d.rewritten_blockChange r kind s
  · refine Document.assemble_of_agree _ _ project generatedAt fun asked leaf => ?_
    have other : asked ≠ kind := by
      rintro rfl
      rw [container] at leaf
      cases leaf
    rw [Registry.AgreeOn, r.find?_register_of_ne kind asked s other]
  · rw [r.register_comm kind kind' s s' different]
  · refine Document.assemble_of_agree _ _ project generatedAt fun kind leaf => ?_
    rw [Registry.AgreeOn, r.find?_registerAll, r.find?_registerAll, Option.map_or, Option.map_or,
      same kind leaf]

end TsWorkshop
