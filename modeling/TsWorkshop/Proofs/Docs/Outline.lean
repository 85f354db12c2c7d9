import Mathlib.Data.List.Forall2
import TsWorkshop.Docs.Document
import TsWorkshop.Proofs.Docs.Fields

/-!
The tree of blocks is the tree of declarations, cut below declarations that are no containers.
`Documents` relates a declaration to its block and, below containers, the members to the blocks of
the members, pairwise and in order. It holds of every walk with the known serializers, whichever
kinds they document: none of them writes blocks of its own.
-/

namespace TsWorkshop

/-- The serializers that have a name, one by one. -/
inductive Serializer.Listed : Serializer → Prop
  | constructor : Listed Serializer.constructor
  | method : Listed Serializer.method
  | function : Listed Serializer.function
  | variableDecl : Listed Serializer.variableDecl
  | property : Listed Serializer.property
  | enum : Listed Serializer.enum
  | typeAlias : Listed Serializer.typeAlias
  | accessor : Listed Serializer.accessor

theorem Serializer.listed_of_mem (name : String) (s : Serializer)
    (h : (name, s) ∈ Serializer.named) : s.Listed := by
  simp only [Serializer.named, List.mem_cons, Prod.mk.injEq, List.not_mem_nil, or_false] at h
  rcases h with ⟨-, rfl⟩ | ⟨-, rfl⟩ | ⟨-, rfl⟩ | ⟨-, rfl⟩ | ⟨-, rfl⟩ | ⟨-, rfl⟩ | ⟨-, rfl⟩ |
    ⟨-, rfl⟩
  · exact .constructor
  · exact .method
  · exact .function
  · exact .variableDecl
  · exact .property
  · exact .enum
  · exact .typeAlias
  · exact .accessor

namespace Registry

/-- Every kind that is documented at all is documented by one of the known serializers. -/
def Known (r : Registry) : Prop :=
  ∀ kind s, r.find? kind = some s → ∃ name, (name, s) ∈ Serializer.named

theorem Known.listed (r : Registry) (known : r.Known) (kind : Kind) (s : Serializer)
    (h : r.find? kind = some s) : s.Listed := by
  obtain ⟨name, h⟩ := known kind s h
  exact Serializer.listed_of_mem name s h

theorem known_empty : empty.Known := fun _ _ h => nomatch h

theorem Known.register (r : Registry) (known : r.Known) (kind : Kind) (name : String)
    (s : Serializer) (listed : (name, s) ∈ Serializer.named) : (r.register kind s).Known := by
  intro asked found h
  by_cases same : asked = kind
  · simp only [Registry.register, same, if_true, Option.some.injEq] at h
    exact ⟨name, h ▸ listed⟩
  · simp only [Registry.register, same, if_false] at h
    exact known asked found h

/-- The kinds that are documented by default are documented by known serializers. -/
theorem known_default : default.Known := by
  refine known_empty.register _ .constructor "Constructor" _ ?_
    |>.register _ .method "Method" _ ?_
    |>.register _ .function "Function" _ ?_
    |>.register _ .variableDecl "Variable" _ ?_
    |>.register _ .property "Property" _ ?_
    |>.register _ .enum "Enum" _ ?_
    |>.register _ .typeAlias "TypeAlias" _ ?_
    |>.register _ .accessor "Accessor" _ ?_ <;> simp [Serializer.named]

end Registry

/-- The block of a declaration, and below a container the blocks of its members. The key `children`
of the written block is there only for a container that has members. -/
inductive Documents : Declaration → Block → Prop
  | container (d : Declaration) (b : Block) (kind : d.declaredKind.isContainer = true)
      (heading : b.name = d.name ∧ b.kind = d.kindLabel ∧ b.comment = d.comment)
      (children : List.Forall₂ Documents d.members b.children)
      (listed : b.toJson.field? "children" =
        if d.members = [] then none else some (.arr (blocksToJson b.children))) :
      Documents d b
  | other (d : Declaration) (b : Block) (kind : d.declaredKind.isContainer = false)
      (heading : b.name = d.name ∧ b.kind = d.kindLabel ∧ b.comment = d.comment)
      (childless : b.children = []) (unlisted : b.toJson.field? "children" = none) :
      Documents d b

/-! ### Fragments -/

/-- A fragment that is not the blocks of a container. -/
def Fragment.IsLeaf (f : Fragment) : Prop := ∀ blocks, f ≠ .container blocks

/-- No known serializer writes blocks. -/
theorem Serializer.isLeaf_fragment (s : Serializer) (listed : s.Listed) (d : Declaration) :
    (s.fragment d).IsLeaf := by
  intro blocks
  cases listed <;> exact Fragment.noConfusion

theorem Fragment.get?_children (f : Fragment) (leaf : f.IsLeaf) :
    Assoc.get? "children" f.members = none := by
  cases f with
  | container blocks => exact absurd rfl (leaf blocks)
  | signatures | enum => rfl
  | typed type value => cases type <;> cases value <;> rfl
  | typeAlias names type text => cases names <;> rfl
  | accessor getters setters => cases getters <;> cases setters <;> rfl

/-- The key `children` of a block comes from its fragment. -/
theorem Block.field?_children (b : Block) :
    b.toJson.field? "children" = b.fragment.bind fun f => Assoc.get? "children" f.members :=
  b.field?_fragment "children" (by simp [heading])

/-! ### The walk -/

/-- A container is documented by the blocks of its members, whatever serializers there are. -/
theorem Declaration.toBlock_container (r : Registry) (d : Declaration)
    (kind : d.declaredKind.isContainer = true) :
    d.toBlock r =
      { name := d.name, kind := d.kindLabel, comment := d.comment
        fragment :=
          if d.members = [] then none else some (.container (blocksOf r d.members)) } := by
  obtain ⟨id, name, rawKind, label, comment, children, _⟩ := d
  rcases children with _ | (_ | ⟨child, rest⟩) <;>
    simp [Declaration.toBlock, Declaration.members, kind]

/-- Any other declaration is documented by the serializer of its kind. -/
theorem Declaration.toBlock_other (r : Registry) (d : Declaration)
    (kind : d.declaredKind.isContainer = false) :
    d.toBlock r =
      { name := d.name, kind := d.kindLabel, comment := d.comment
        fragment := (r.find? d.declaredKind).map fun s => s.fragment d } := by
  obtain ⟨id, name, rawKind, label, comment, children, _⟩ := d
  rcases children with _ | (_ | ⟨child, rest⟩) <;> simp [Declaration.toBlock, kind]

/-- The fragment of a container is the blocks of its members. -/
theorem Declaration.fragment_container (r : Registry) (d : Declaration)
    (kind : d.declaredKind.isContainer = true) (f : Fragment)
    (h : (d.toBlock r).fragment = some f) : f = .container (blocksOf r d.members) := by
  rw [toBlock_container r d kind] at h
  exact (Option.some.inj (Option.ite_none_left_eq_some.mp h).2).symm

/-- Any other fragment is written by the serializer of the kind, which is a known one. -/
theorem Declaration.fragment_other (r : Registry) (known : r.Known) (d : Declaration)
    (kind : d.declaredKind.isContainer = false) (f : Fragment)
    (h : (d.toBlock r).fragment = some f) :
    ∃ s, r.find? d.declaredKind = some s ∧ s.Listed ∧ f = s.fragment d := by
  rw [toBlock_other r d kind] at h
  obtain ⟨s, served, rfl⟩ := Option.map_eq_some_iff.mp h
  exact ⟨s, served, known.listed r _ s served, rfl⟩

theorem Declaration.isLeaf_fragment (r : Registry) (known : r.Known) (d : Declaration)
    (kind : d.declaredKind.isContainer = false) (f : Fragment)
    (h : (d.toBlock r).fragment = some f) : f.IsLeaf := by
  obtain ⟨s, -, listed, rfl⟩ := d.fragment_other r known kind f h
  exact s.isLeaf_fragment listed d

theorem Declaration.heading_toBlock (r : Registry) (d : Declaration) :
    (d.toBlock r).name = d.name ∧ (d.toBlock r).kind = d.kindLabel ∧
      (d.toBlock r).comment = d.comment := by
  cases d
  exact ⟨rfl, rfl, rfl⟩

theorem Declaration.children_toBlock_container (r : Registry) (d : Declaration)
    (kind : d.declaredKind.isContainer = true) :
    (d.toBlock r).children = blocksOf r d.members := by
  rw [toBlock_container r d kind]
  by_cases none : d.members = []
  · simp [Block.children, none, blocksOf]
  · simp [Block.children, none]

theorem Declaration.children_toBlock_other (r : Registry) (known : r.Known) (d : Declaration)
    (kind : d.declaredKind.isContainer = false) : (d.toBlock r).children = [] := by
  rw [Block.children]
  split
  · next blocks written => exact absurd rfl (d.isLeaf_fragment r known kind _ written blocks)
  · rfl

/-- One step of the walk: the block of a declaration, given the blocks of its members. -/
theorem documents_step (r : Registry) (known : r.Known) (d : Declaration)
    (members : List.Forall₂ Documents d.members (blocksOf r d.members)) :
    Documents d (d.toBlock r) := by
  have heading := d.heading_toBlock r
  cases kind : d.declaredKind.isContainer with
  | true =>
    have children := d.children_toBlock_container r kind
    refine Documents.container d _ kind heading (children.symm ▸ members) ?_
    rw [Block.field?_children, children, Declaration.toBlock_container r d kind]
    by_cases none : d.members = []
    · simp [none]
    · simp [none, Fragment.members]
  | false =>
    refine Documents.other d _ kind heading (d.children_toBlock_other r known kind) ?_
    rw [Block.field?_children]
    cases written : (d.toBlock r).fragment with
    | none => rfl
    | some f => exact f.get?_children (d.isLeaf_fragment r known kind f written)

mutual

theorem documents_toBlock (r : Registry) (known : r.Known) :
    ∀ d : Declaration, Documents d (d.toBlock r)
  | ⟨_, _, _, _, _, none, _, _, _, _, _, _, _, _⟩ => documents_step r known _ .nil
  | ⟨_, _, _, _, _, some children, _, _, _, _, _, _, _, _⟩ =>
    documents_step r known _ (documents_blocksOf r known children)

theorem documents_blocksOf (r : Registry) (known : r.Known) :
    ∀ ds : List Declaration, List.Forall₂ Documents ds (blocksOf r ds)
  | [] => .nil
  | d :: rest => .cons (documents_toBlock r known d) (documents_blocksOf r known rest)

end

/-- The blocks of a documentation file correspond to the declarations that the project leads to
through containers, one to one, in order and at the same nesting. -/
theorem documents_assemble (project : Declaration) (r : Registry) (known : r.Known)
    (generatedAt : Timestamp) :
    List.Forall₂ Documents project.members (Document.assemble project r generatedAt).children :=
  documents_blocksOf r known project.members

/-- A method in a class in a module, and an accessor that documents it. -/
theorem documents_assemble_nested :
    let greet := Declaration.ofKind "greet" .method
    let greeter := { Declaration.ofKind "Greeter" .classType with children := some [greet] }
    let project := { Declaration.ofKind "index" .project with
      children := some [{ Declaration.ofKind "main" .module with children := some [greeter] }] }
    let r := Registry.empty.register .method Serializer.accessor
    r.Known ∧
      List.Forall₂ Documents project.members (Document.assemble project r ⟨0, 0⟩).children :=
  have known := Registry.known_empty.register Registry.empty .method "Accessor"
    Serializer.accessor (by simp [Serializer.named])
  ⟨known, documents_assemble _ _ known _⟩

end TsWorkshop
