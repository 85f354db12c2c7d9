import TsWorkshop.Proofs.Docs.Outline

/-!
The walk in pre-order. `walked` lists the declarations that are documented one by one, each before
its members; the blocks of a documentation file, each before the blocks in it, are theirs one to one
(`preorder_blocksOf`), and the events are reported declaration by declaration (`warningsOf_eq`).
-/

namespace TsWorkshop

/-! ### Induction on members -/

theorem Declaration.sizeOf_member (member d : Declaration) (h : member ∈ d.members) :
    sizeOf member < sizeOf d := by
  obtain ⟨id, name, kind, kindString, comment, children, _⟩ := d
  cases children with
  | none => simp [Declaration.members] at h
  | some ds =>
    have smaller := List.sizeOf_lt_of_mem (show member ∈ ds from h)
    simp only [Declaration.mk.sizeOf_spec, Option.some.sizeOf_spec]
    omega

/-- Induction on a declaration: its members come first. -/
theorem Declaration.induction_on_members {P : Declaration → Prop} (d : Declaration)
    (step : ∀ d : Declaration, (∀ member ∈ d.members, P member) → P d) : P d :=
  step d fun member inside =>
    have := sizeOf_member member d inside
    induction_on_members member step
termination_by sizeOf d

/-! ### Declarations in pre-order -/

mutual

/-- The declarations that are documented one by one from `d` on: those that containers lead to,
each before its members. -/
def Declaration.walked : Declaration → List Declaration
  | d@{ children, .. } =>
    d ::
      if d.declaredKind.isContainer then
        match children with
        | some members => walkedAll members
        | none => []
      else []

def walkedAll : List Declaration → List Declaration
  | [] => []
  | d :: rest => d.walked ++ walkedAll rest

end

theorem walkedAll_eq_flatMap (ds : List Declaration) :
    walkedAll ds = ds.flatMap Declaration.walked := by
  induction ds with
  | nil => rfl
  | cons d rest ih => simp [walkedAll, ih]

theorem Declaration.walked_container (d : Declaration) (kind : d.declaredKind.isContainer = true) :
    d.walked = d :: walkedAll d.members := by
  obtain ⟨id, name, rawKind, label, comment, children, _⟩ := d
  cases children <;> simp [Declaration.walked, Declaration.members, kind, walkedAll]

theorem Declaration.walked_other (d : Declaration) (kind : d.declaredKind.isContainer = false) :
    d.walked = [d] := by
  obtain ⟨id, name, rawKind, label, comment, children, _⟩ := d
  cases children <;> simp [Declaration.walked, kind]

/-! ### Blocks in pre-order -/

mutual

/-- A block and the blocks in it, each before those in it. -/
def Block.preorder : Block → List Block
  | b@{ fragment, .. } =>
    b ::
      match fragment with
      | some (.container blocks) => preorderAll blocks
      | _ => []

def preorderAll : List Block → List Block
  | [] => []
  | b :: rest => b.preorder ++ preorderAll rest

end

theorem Block.preorder_eq (b : Block) : b.preorder = b :: preorderAll b.children := by
  obtain ⟨name, kind, comment, fragment⟩ := b
  rcases fragment with _ | fragment
  · rfl
  · cases fragment <;> rfl

theorem preorderAll_eq_flatMap (blocks : List Block) :
    preorderAll blocks = blocks.flatMap Block.preorder := by
  induction blocks with
  | nil => rfl
  | cons b rest ih => simp [preorderAll, ih]

/-! ### The walk -/

theorem blocksOf_eq_map (r : Registry) (ds : List Declaration) :
    blocksOf r ds = ds.map (Declaration.toBlock r) := by
  induction ds with
  | nil => rfl
  | cons d rest ih => simp [blocksOf, ih]

theorem warningsOf_eq_flatMap (r : Registry) (ds : List Declaration) :
    warningsOf r ds = ds.flatMap (Declaration.warnings r) := by
  induction ds with
  | nil => rfl
  | cons d rest ih => simp [warningsOf, ih]

/-- The blocks in pre-order are the blocks of the declarations in pre-order. -/
theorem Declaration.preorder_toBlock (r : Registry) (known : r.Known) (d : Declaration) :
    (d.toBlock r).preorder = d.walked.map (Declaration.toBlock r) := by
  induction d using Declaration.induction_on_members with
  | step d ih =>
    rw [Block.preorder_eq]
    cases kind : d.declaredKind.isContainer with
    | true =>
      rw [children_toBlock_container r d kind, walked_container d kind, List.map_cons,
        preorderAll_eq_flatMap, blocksOf_eq_map, walkedAll_eq_flatMap, List.flatMap_map,
        List.map_flatMap]
      congr 1
      exact List.flatMap_congr ih
    | false =>
      rw [children_toBlock_other r known d kind, walked_other d kind]
      rfl

theorem preorder_blocksOf (r : Registry) (known : r.Known) (ds : List Declaration) :
    preorderAll (blocksOf r ds) = (walkedAll ds).map (Declaration.toBlock r) := by
  rw [preorderAll_eq_flatMap, blocksOf_eq_map, walkedAll_eq_flatMap, List.flatMap_map,
    List.map_flatMap]
  exact List.flatMap_congr fun d _ => d.preorder_toBlock r known

end TsWorkshop
