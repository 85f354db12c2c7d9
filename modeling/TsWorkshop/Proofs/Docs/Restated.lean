import TsWorkshop.Proofs.Docs.Walk

/-!
The one-line texts of signatures and aliases, beside the fields that say the same. A signature is
put into words in four places: in the block of a method, a function or an accessor
(`SignatureBlock.Restates`), in that of a constructor (`SignatureBlock.Abridges`), in that of an
alias, and as a function type inside another type (`Signature.renderCallable_eq`). `Restated` says
of a declaration and its block that the texts of the block can be put together from its other
fields; it holds of every walked declaration (`asString_restates`).
-/

namespace TsWorkshop

/-! ### What the texts say -/

/-- The parameters that the block of a signature lists, with the texts of their types. -/
def SignatureBlock.parameterText (b : SignatureBlock) : String :=
  Text.join ", " ((b.params.getD []).map fun p => p.name ++ ": " ++ p.type.value)

/-- The block of a signature, whose text says what its parameters and its returned type say. -/
structure SignatureBlock.Restates (s : Signature) (b : SignatureBlock) : Prop where
  names : b.params.map (fun ps => ps.map ParameterBlock.name) =
    s.parameters.map fun ps => ps.map Parameter.name
  text : ∃ returns, b.returnType = some returns ∧ b.type = returns ∧
    b.asString = s.name ++ "(" ++ b.parameterText ++ "): " ++ returns.value

/-- The block of a constructor's signature, whose text is that of a method without the returned
type. -/
structure SignatureBlock.Abridges (s : Signature) (b : SignatureBlock) : Prop where
  bare : b.params = none ∧ b.returnType = none
  text : b.asString ++ ": " ++ b.type.value = s.toBlock.asString

/-- The generic parameters of an alias in angle brackets, if it lists them. -/
def genericsText : Option (List String) → String
  | some names => "<" ++ Text.join ", " names ++ ">"
  | none => ""

/-- Whether a fragment has texts that are put together from several fields. -/
def Fragment.hasText : Fragment → Bool
  | .signatures _ | .accessor _ _ | .typeAlias _ _ _ => true
  | .container _ | .typed _ _ | .enum _ => false

/-- The texts in the block of a declaration say what the other fields of the block say. -/
inductive Restated : Declaration → Block → Prop
  | callable (d : Declaration) (b : Block) (signatures : List SignatureBlock)
      (kind : d.declaredKind = .method ∨ d.declaredKind = .function)
      (written : b.fragment = some (.signatures signatures))
      (each : List.Forall₂ SignatureBlock.Restates (d.signatures.getD []) signatures) :
      Restated d b
  | accessor (d : Declaration) (b : Block) (getters setters : Option (List SignatureBlock))
      (kind : d.declaredKind = .accessor)
      (written : b.fragment = some (.accessor getters setters))
      (get : Option.Rel (List.Forall₂ SignatureBlock.Restates)
        (d.getSignature.map OneOrMany.toList) getters)
      (set : Option.Rel (List.Forall₂ SignatureBlock.Restates)
        (d.setSignature.map OneOrMany.toList) setters) : Restated d b
  /-- Signatures without a type are left out. -/
  | constructor (d : Declaration) (b : Block) (signatures : List SignatureBlock)
      (kind : d.declaredKind = .constructor)
      (written : b.fragment = some (.signatures signatures))
      (each : List.Forall₂ SignatureBlock.Abridges
        ((d.signatures.getD []).filter fun s => s.type.isSome) signatures) : Restated d b
  | typeAlias (d : Declaration) (b : Block) (names : Option (List String)) (type : TypeBlock)
      (kind : d.declaredKind = .typeAlias)
      (written : b.fragment = some (.typeAlias names type
        ("type " ++ b.name ++ genericsText names ++ " = " ++ type.value))) : Restated d b
  | other (d : Declaration) (b : Block)
      (kind : d.declaredKind ∉ [.method, .function, .accessor, .constructor, .typeAlias])
      (textless : ∀ f, b.fragment = some f → f.hasText = false) : Restated d b

/-! ### Signatures -/

theorem Signature.parameterText_toBlock (s : Signature) :
    s.parameterList = "(" ++ s.toBlock.parameterText ++ ")" := by
  rw [parameterList, SignatureBlock.parameterText, toBlock]
  cases s.parameters with
  | none => rfl
  | some ps =>
    rw [Option.map_some, Option.getD_some, Option.getD_some, List.map_map]
    rfl

theorem Signature.restates_toBlock (s : Signature) : s.toBlock.Restates s := by
  refine ⟨?_, TypeBlock.describe s.type, rfl, rfl, ?_⟩
  · rw [toBlock]
    cases s.parameters with
    | none => rfl
    | some ps =>
      simp only [Option.map_some, List.map_map]
      rfl
  · have text : s.toBlock.asString =
        s.name ++ s.parameterList ++ ": " ++ (TypeBlock.describe s.type).value := rfl
    rw [text, s.parameterText_toBlock]
    simp [String.append_assoc]

/-- A constructor documents a signature that has a type, in the words of a method. -/
theorem Signature.abridges_toConstructorBlock (s : Signature) (type : Descriptor)
    (typed : s.type = some type) : ∃ b, s.toConstructorBlock? = some b ∧ b.Abridges s := by
  refine ⟨_, by rw [toConstructorBlock?, typed, Option.map_some], ⟨rfl, rfl⟩, ?_⟩
  simp [toBlock, typed, TypeBlock.tagged, TypeBlock.describe, renderOptional]

theorem forall₂_restates (signatures : List Signature) :
    List.Forall₂ SignatureBlock.Restates signatures (signatures.map Signature.toBlock) :=
  List.forall₂_map_right_iff.mpr (List.forall₂_same.mpr fun s _ => s.restates_toBlock)

theorem forall₂_abridges (signatures : List Signature) :
    List.Forall₂ SignatureBlock.Abridges (signatures.filter fun s => s.type.isSome)
      (signatures.filterMap Signature.toConstructorBlock?) := by
  induction signatures with
  | nil => exact .nil
  | cons s rest ih =>
    cases typed : s.type with
    | none =>
      have skipped : s.toConstructorBlock? = none := by simp [Signature.toConstructorBlock?, typed]
      simpa [typed, skipped] using ih
    | some type =>
      obtain ⟨b, written, abridges⟩ := s.abridges_toConstructorBlock type typed
      simpa [typed, written] using List.Forall₂.cons abridges ih

theorem rel_restates (signatures : Option (OneOrMany Signature)) :
    Option.Rel (List.Forall₂ SignatureBlock.Restates) (signatures.map OneOrMany.toList)
      (signatures.map fun s => Serializer.accessorBlocks s.toList) := by
  cases signatures with
  | none => exact .none
  | some s => exact .some (forall₂_restates s.toList)

/-! ### Function types -/

theorem renderParameters_eq_map (ps : List Parameter) :
    renderParameters ps = ps.map fun p => p.name ++ ": " ++ renderOptional p.type := by
  induction ps with
  | nil => rfl
  | cons p rest ih =>
    obtain ⟨id, name, type, _⟩ := p
    rw [List.map_cons, ← ih]
    cases type <;> rfl

theorem renderCallables_eq_map (signatures : List Signature) :
    renderCallables signatures = signatures.map Signature.renderCallable := by
  induction signatures with
  | nil => rfl
  | cons s rest ih => simp [renderCallables, ih]

/-- As a function type, a signature that lists parameters has them in the words of its block. -/
theorem Signature.renderCallable_eq (s : Signature) :
    s.renderCallable =
      "(" ++ (if s.parameters.isSome then s.toBlock.parameterText else anyArguments) ++ ") => " ++
        s.toBlock.type.value := by
  have listed : ∀ ps, s.parameters = some ps →
      Text.join ", " (renderParameters ps) = s.toBlock.parameterText := by
    intro ps known
    rw [renderParameters_eq_map, SignatureBlock.parameterText, toBlock, known, Option.map_some,
      Option.getD_some, List.map_map]
    rfl
  obtain ⟨id, name, kind, kindString, comment, parameters, type, extra⟩ := s
  cases parameters with
  | none => cases type <;> simp [renderCallable, toBlock, TypeBlock.describe, renderOptional]
  | some ps =>
    have words := listed ps rfl
    cases type <;>
      simp [renderCallable, words, toBlock, TypeBlock.describe, renderOptional]

/-- The text of a function type, one line for each signature. -/
theorem Descriptor.render_callable (d : Declaration) (extra : Extra) (childless : d.members = [])
    (callable : d.signatures.getD [] ≠ []) :
    (reflection (some d) extra).render =
      Text.join "\n" ((d.signatures.getD []).map Signature.renderCallable) := by
  obtain ⟨_, _, _, _, _, children, signatures, _⟩ := d
  cases signatures with
  | none => exact absurd rfl callable
  | some signatures =>
    cases signatures with
    | nil => exact absurd rfl callable
    | cons s rest =>
      rw [Option.getD_some, ← renderCallables_eq_map]
      rcases children with _ | (_ | ⟨child, others⟩)
      · rfl
      · rfl
      · cases childless

/-! ### Declarations -/

/-- The texts in the block of a declaration agree with its other fields. -/
theorem Declaration.restated_toBlock (d : Declaration) : Restated d (d.toBlock .default) := by
  cases leaf : d.declaredKind.isContainer with
  | true =>
    refine Restated.other d _ (fun listed => ?_) fun f h => ?_
    · simp only [List.mem_cons, List.not_mem_nil, or_false] at listed
      rcases listed with kind | kind | kind | kind | kind <;> rw [kind] at leaf <;> cases leaf
    · rw [d.fragment_container .default leaf f h]
      rfl
  | false =>
    rw [toBlock_other .default d leaf]
    cases kind : d.declaredKind with
    | method => exact .callable d _ _ (.inl kind) rfl (forall₂_restates _)
    | function => exact .callable d _ _ (.inr kind) rfl (forall₂_restates _)
    | constructor => exact .constructor d _ _ kind rfl (forall₂_abridges _)
    | accessor => exact .accessor d _ _ _ kind rfl (rel_restates _) (rel_restates _)
    | typeAlias => exact .typeAlias d _ _ _ kind rfl
    | property | variableDecl | enum =>
      refine Restated.other d _ (by simp [kind]) fun f h => ?_
      cases h
      rfl
    -- no serializer documents any other kind
    | _ => exact Restated.other d _ (by simp [kind]) fun f h => nomatch h

/-- In the block of every walked declaration the texts of signatures and aliases say what the other
fields of the block say. A constructor's signature is put into the words of a method's, less the
returned type, and a function type has the words of a method's signature for its parameters. -/
theorem asString_restates (project : Declaration) (generatedAt : Timestamp) :
    List.Forall₂ Restated (walkedAll project.members)
      (preorderAll (Document.assemble project .default generatedAt).children) ∧
    (∀ (s : Signature) (type : Descriptor), s.type = some type →
      ∃ b, s.toConstructorBlock? = some b ∧ b.asString ++ ": " ++ b.type.value =
        s.toBlock.asString) ∧
    ∀ (d : Declaration) (extra : Extra), d.members = [] → d.signatures.getD [] ≠ [] →
      (Descriptor.reflection (some d) extra).render =
        Text.join "\n" ((d.signatures.getD []).map fun s =>
          "(" ++ (if s.parameters.isSome then s.toBlock.parameterText else anyArguments) ++
            ") => " ++ s.toBlock.type.value) := by
  refine ⟨?_, fun s type typed => ?_, fun d extra childless callable => ?_⟩
  · rw [Document.assemble, preorder_blocksOf .default Registry.known_default,
      List.forall₂_map_right_iff, List.forall₂_same]
    exact fun d _ => d.restated_toBlock
  · obtain ⟨b, written, abridges⟩ := s.abridges_toConstructorBlock type typed
    exact ⟨b, written, abridges.text⟩
  · rw [Descriptor.render_callable d extra childless callable]
    exact congrArg (Text.join "\n") (List.map_congr_left fun s _ => s.renderCallable_eq)

/-- A callback names its parameter in the words of a method. -/
theorem asString_restates_callback :
    let call : Signature :=
      { name := "call", parameters := some [{ name := "x", type := some (.intrinsic "number" []) }],
        type := some (.intrinsic "void" []) }
    let callback : Declaration :=
      { Declaration.ofKind "__type" .typeLiteral with signatures := some [call] }
    call.toBlock.asString = "call(x: number): void" ∧
      (∃ b, call.toConstructorBlock? = some b ∧
        b.asString ++ ": " ++ b.type.value = "call(x: number): void") ∧
      (Descriptor.reflection (some callback) []).render = "(x: number) => void" := by
  intro call callback
  obtain ⟨-, constructed, rendered⟩ := asString_restates callback ⟨0, 0⟩
  have text : call.toBlock.asString = "call(x: number): void" := by decide +kernel
  refine ⟨text, text ▸ constructed call _ rfl, ?_⟩
  rw [rendered callback [] rfl (by simp [callback])]
  decide +kernel

end TsWorkshop
