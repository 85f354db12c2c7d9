import TsWorkshop.Proofs.Docs.Fields
import TsWorkshop.Proofs.Docs.Renumbering
import TsWorkshop.Proofs.Json.AnyOrder
import TsWorkshop.Proofs.Reflection.Content
import TsWorkshop.Proofs.Reflection.Decoded
import TsWorkshop.Proofs.Reflection.OrderFree

/-!
The order of members in a reflection file does not matter (`assemble_shuffled`). What is decoded
from a shuffled text differs in the order of the members that records keep and nowhere else
(`Declaration.outcome_shuffled`), and such an order shows in no block of the documentation, but for
the order of members in the blocks themselves (`Declaration.content_toBlock`).
-/

namespace TsWorkshop

/-! ### Types -/

theorem renderOptional_canonical (type : Option Descriptor) :
    renderOptional (type.map Descriptor.canonical) = renderOptional type := by
  rw [map_canonical_descriptor?, renderOptional_revised]

theorem TypeBlock.content_describe (type : Option Descriptor) :
    (describe (type.map Descriptor.canonical)).toJson.canonical =
      (describe type).toJson.canonical := by
  rw [toJson_eq, toJson_eq]
  refine canonical_written _ _ [] [] ?_ rfl
  have text := renderOptional_canonical type
  cases type with
  | none => rfl
  | some d =>
    simp only [Option.map_some] at text
    simp [fields, contents, describe, summaryToJson, text, d.content_canonical]

/-- The tag of a descriptor is found in any order of members, if none is repeated. -/
theorem Descriptor.tag?_canonical (d : Descriptor) (unique : d.toJson.uniqueKeys = true) :
    d.canonical.tag? = d.tag? := by
  cases d with
  | unrecognized raw =>
    rw [Descriptor.canonical]
    cases raw with
    | obj members =>
      have keys := ((Json.uniqueKeys_obj_iff members).mp unique).1
      simp only [Descriptor.tag?, Tag.textIn?, Json.canonical_obj, Json.field?,
        Json.get?_sortedMembers "type" members keys]
      rcases Assoc.get? "type" members with _ | (_ | _ | _ | _ | _ | _) <;> simp [Json.text?]
    | null | bool | num | str => rfl
    | arr => simp [Descriptor.tag?, Tag.textIn?, Json.field?]
  | _ => simp [Descriptor.canonical, Descriptor.tag?, Descriptor.kind?]

theorem TypeBlock.content_tagged (d : Descriptor) (unique : d.toJson.uniqueKeys = true) :
    (tagged d.canonical).toJson.canonical = (tagged d).toJson.canonical := by
  unfold tagged
  rw [d.tag?_canonical unique, d.render_canonical]

/-! ### Signatures -/

theorem Parameter.content_toBlock (p : Parameter) :
    p.canonical.toBlock.toJson.canonical = p.toBlock.toJson.canonical := by
  rw [ParameterBlock.toJson_eq, ParameterBlock.toJson_eq, Parameter.canonical_eq]
  refine canonical_written _ _ [] [] ?_ rfl
  simp only [ParameterBlock.fields, contents, toBlock, List.map_cons, Option.map_some,
    TypeBlock.content_describe, content_comment?]

theorem Signature.parameterList_canonical (s : Signature) :
    s.canonical.parameterList = s.parameterList := by
  rw [s.canonical_eq_revised, s.parameterList_revised]

theorem Signature.content_toBlock (s : Signature) :
    s.canonical.toBlock.toJson.canonical = s.toBlock.toJson.canonical := by
  have listed := s.parameterList_canonical
  have params : Json.canonical ∘ ParameterBlock.toJson ∘ Parameter.toBlock ∘ Parameter.canonical =
      Json.canonical ∘ ParameterBlock.toJson ∘ Parameter.toBlock :=
    funext Parameter.content_toBlock
  have text := renderOptional_canonical s.type
  have type := TypeBlock.content_describe s.type
  have comment := content_comment? s.comment
  rw [SignatureBlock.toJson_eq, SignatureBlock.toJson_eq]
  refine canonical_written _ _ [] [] ?_ rfl
  unfold toBlock
  rw [listed, Signature.canonical_eq]
  simp only [SignatureBlock.fields, contents, List.map_cons, Option.map_some, type, comment]
  cases s.parameters with
  | none => simp [TypeBlock.describe, text]
  | some ps => simp [TypeBlock.describe, text, params]

/-- A signature of a constructor, whose type shows by its tag alone. -/
theorem Signature.content_toConstructorBlock? (s : Signature)
    (unique : ∀ t, s.type = some t → t.toJson.uniqueKeys = true) :
    (s.canonical.toConstructorBlock?.map SignatureBlock.toJson).map Json.canonical =
      (s.toConstructorBlock?.map SignatureBlock.toJson).map Json.canonical := by
  have listed := s.parameterList_canonical
  have comment := content_comment? s.comment
  unfold toConstructorBlock?
  rw [listed, Signature.canonical_eq]
  cases there : s.type with
  | none => rfl
  | some t =>
    have type := TypeBlock.content_tagged t (unique t there)
    simp only [Option.map_some, SignatureBlock.toJson_eq]
    refine congrArg some (canonical_written _ _ [] [] ?_ rfl)
    simp only [SignatureBlock.fields, contents, List.map_cons, Option.map_some, type, comment]

/-! ### Fragments -/

theorem Serializer.content_enumMember (d : Declaration) :
    (enumMember d.canonical).toJson.canonical = (enumMember d).toJson.canonical := by
  have comment := content_comment? d.comment
  have value : (enumMember d.canonical).value = (enumMember d).value := by
    rw [Declaration.canonical_eq]
    rcases there : d.type with _ | (_ | _ | _ | _ | _ | _ | _ | _ | _ | _ | _ | _ | _ | _ | _) <;>
      simp [enumMember, Descriptor.canonical, there]
  rw [EnumMemberBlock.toJson_eq, EnumMemberBlock.toJson_eq]
  refine canonical_written _ _ [] [] ?_ rfl
  rw [EnumMemberBlock.fields, value, Declaration.canonical_eq]
  simp only [EnumMemberBlock.fields, enumMember, contents, List.map_cons, comment]

theorem Declaration.signatures_canonical (d : Declaration) :
    d.canonical.signatures.getD [] = (d.signatures.getD []).map Signature.canonical := by
  rw [canonical_eq_revised, signatures_revised, map_canonical_signatures]

theorem Declaration.members_canonical (d : Declaration) :
    d.canonical.members = d.members.map Declaration.canonical := by
  rw [canonical_eq_revised, members_revised, map_canonical_declarations]

theorem OneOrMany.toList_canonical (s : OneOrMany Signature) :
    s.canonical.toList = s.toList.map Signature.canonical := by
  rw [canonical_eq_revised, toList_revised, map_canonical_signatures]

/-- The order of members shows in no list of signatures, but for the order of members in it. -/
theorem content_signatureBlocks (ss : List Signature) :
    (signatureBlocksToJson ((ss.map Signature.canonical).map Signature.toBlock)).canonical =
      (signatureBlocksToJson (ss.map Signature.toBlock)).canonical := by
  have blocks : Json.canonical ∘ SignatureBlock.toJson ∘ Signature.toBlock ∘ Signature.canonical =
      Json.canonical ∘ SignatureBlock.toJson ∘ Signature.toBlock :=
    funext Signature.content_toBlock
  simp [signatureBlocksToJson, blocks]

theorem content_constructorBlocks (ss : List Signature)
    (unique : ∀ s ∈ ss, ∀ t, s.type = some t → t.toJson.uniqueKeys = true) :
    (signatureBlocksToJson
        ((ss.map Signature.canonical).filterMap Signature.toConstructorBlock?)).canonical =
      (signatureBlocksToJson (ss.filterMap Signature.toConstructorBlock?)).canonical := by
  have blocks := List.filterMap_congr fun (s : Signature) inside =>
    s.content_toConstructorBlock? (unique s inside)
  simp only [signatureBlocksToJson, Json.canonical_arr, List.map_filterMap, List.filterMap_map]
  exact congrArg Json.arr blocks

theorem content_accessorBlocks (s : Option (OneOrMany Signature)) :
    (((s.map OneOrMany.canonical).map fun s => Serializer.accessorBlocks s.toList).map
        signatureBlocksToJson).map Json.canonical =
      ((s.map fun s => Serializer.accessorBlocks s.toList).map signatureBlocksToJson).map
        Json.canonical := by
  cases s with
  | none => rfl
  | some s =>
    have listed := content_signatureBlocks s.toList
    simp only [Option.map_some, OneOrMany.toList_canonical, Serializer.accessorBlocks, listed]

/-- The order of members shows in no fragment, but for the order of members in it. -/
theorem Serializer.content_fragment (s : Serializer) (listed : s.Listed) (d : Declaration)
    (h : Decoded Declaration.ofJson? d) :
    contents (s.fragment d.canonical).fields = contents (s.fragment d).fields := by
  have type : (TypeBlock.describe d.canonical.type).toJson.canonical =
      (TypeBlock.describe d.type).toJson.canonical := by
    rw [Declaration.canonical_eq]
    exact TypeBlock.content_describe d.type
  cases listed with
  | constructor =>
    have blocks := content_constructorBlocks (d.signatures.getD []) fun s inside t there =>
      have decoded := s.decodedParts ((d.decodedParts h).signatures s inside)
      t.uniqueKeys_toJson (decoded.type t there)
    simp only [constructor, Fragment.fields, contents, List.map_cons, Option.map_some,
      Declaration.signatures_canonical, blocks]
  | method | function =>
    have blocks := content_signatureBlocks (d.signatures.getD [])
    simp only [method, function, Fragment.fields, contents, List.map_cons, Option.map_some,
      Declaration.signatures_canonical, blocks]
  | variableDecl =>
    have value : d.canonical.defaultValue = d.defaultValue := by rw [Declaration.canonical_eq]
    simp only [variableDecl, Fragment.fields, contents, List.map_cons, Option.map_some, type, value]
  | property =>
    simp only [property, Fragment.fields, contents, List.map_cons, Option.map_some, type]
  | enum =>
    have members : Json.canonical ∘ EnumMemberBlock.toJson ∘ enumMember ∘ Declaration.canonical =
        Json.canonical ∘ EnumMemberBlock.toJson ∘ enumMember := funext content_enumMember
    simp [enum, Fragment.fields, contents, Declaration.members_canonical, members]
  | typeAlias =>
    have name : d.canonical.name = d.name := by rw [Declaration.canonical_eq]
    have names := d.names_generics_revised .sorted
    rw [← d.canonical_eq_revised] at names
    have text : (TypeBlock.describe d.canonical.type).value =
        (TypeBlock.describe d.type).value := by
      rw [Declaration.canonical_eq]
      exact renderOptional_canonical d.type
    simp only [typeAlias, Fragment.fields, contents, List.map_cons, Option.map_some, type, name,
      names, text]
  | accessor =>
    have getters := content_accessorBlocks d.getSignature
    have setters := content_accessorBlocks d.setSignature
    rw [Declaration.canonical_eq]
    simp only [accessor, Fragment.fields, contents, List.map_cons, getters, setters]

/-! ### The walk -/

theorem Block.content_of_parts (b b' : Block) (name : b.name = b'.name) (kind : b.kind = b'.kind)
    (comment : (b.comment.map Comment.toJson).map Json.canonical =
      (b'.comment.map Comment.toJson).map Json.canonical)
    (fragment : contents ((b.fragment.map Fragment.fields).getD []) =
      contents ((b'.fragment.map Fragment.fields).getD [])) :
    b.toJson.canonical = b'.toJson.canonical := by
  rw [toJson_eq, toJson_eq]
  refine canonical_written _ _ [] [] ?_ rfl
  unfold contents at fragment
  simp only [fields, heading, contents, List.map_append, List.map_cons, name, kind, comment,
    fragment]

theorem content_blocksOf (r : Registry) (ds : List Declaration)
    (each : ∀ d ∈ ds, (d.canonical.toBlock r).toJson.canonical = (d.toBlock r).toJson.canonical) :
    (Json.arr (blocksToJson (blocksOf r (ds.map Declaration.canonical)))).canonical =
      (Json.arr (blocksToJson (blocksOf r ds))).canonical := by
  simp only [Json.canonical_arr, blocksToJson_eq_map, blocksOf_eq_map, List.map_map]
  exact congrArg Json.arr (List.map_congr_left each)

/-- The order of members shows in no block, but for the order of members in it. -/
theorem Declaration.content_toBlock (r : Registry) (known : r.Known) (d : Declaration)
    (h : Decoded Declaration.ofJson? d) :
    (d.canonical.toBlock r).toJson.canonical = (d.toBlock r).toJson.canonical := by
  induction d using Declaration.induction_on_members with
  | step d ih =>
    have declared : d.canonical.declaredKind = d.declaredKind := by
      rw [canonical_eq_revised, declaredKind_revised]
    have label : d.canonical.kindLabel = d.kindLabel := by
      rw [canonical_eq_revised, kindLabel_revised]
    have name : d.canonical.name = d.name := by rw [canonical_eq]
    have comment : (d.canonical.comment.map Comment.toJson).map Json.canonical =
        (d.comment.map Comment.toJson).map Json.canonical := by
      rw [canonical_eq]
      exact content_comment? d.comment
    cases kind : d.declaredKind.isContainer with
    | true =>
      rw [toBlock_container r _ (declared ▸ kind), toBlock_container r d kind]
      refine Block.content_of_parts _ _ name label comment ?_
      have blocks := content_blocksOf r d.members fun member inside =>
        ih member inside ((d.decodedParts h).members member inside)
      rw [members_canonical]
      by_cases none : d.members = []
      · simp [none]
      · simp [none, Fragment.fields, contents, -Json.canonical_arr, blocks]
    | false =>
      rw [toBlock_other r _ (declared ▸ kind), toBlock_other r d kind]
      refine Block.content_of_parts _ _ name label comment ?_
      rw [declared]
      cases served : r.find? d.declaredKind with
      | none => rfl
      | some s => exact s.content_fragment (known.listed r _ s served) d h

/-- The order of members does not show in the content of the documentation. -/
theorem Document.content_assemble (r : Registry) (known : r.Known) (project : Declaration)
    (h : Decoded Declaration.ofJson? project) (generatedAt : Timestamp) :
    (assemble project.canonical r generatedAt).toJson.canonical =
      (assemble project r generatedAt).toJson.canonical := by
  have blocks := content_blocksOf r project.members fun member inside =>
    member.content_toBlock r known ((project.decodedParts h).members member inside)
  simp only [toJson, assemble, Json.canonical_obj, Json.sortedMembers, Json.canonicalMembers,
    Declaration.members_canonical, blocks]

/-! ### Texts -/

/-- No test in a reflection file depends on the order of members. -/
theorem Reflection.grammar_contentOnly : Reflection.grammar.ContentOnly := by
  have kinds : ∀ v, (RawKind.ofJson? v.canonical).isSome = (RawKind.ofJson? v).isSome := by
    intro v
    rw [orderFree_rawKind v, Option.map_id]
    rfl
  intro name
  cases name <;>
    simp [Reflection.grammar, Reflection.nullable, Reflection.id, Reflection.kind,
      Reflection.string, Shape.ContentOnly] <;>
    exact kinds

/-- What is decoded from a text is decoded from its content, up to the order of members. -/
theorem Reflection.outcome_readAs {α : Type} (shape : Shape RecordName) (strict : shape.Strict)
    (read : Json → Option α) (f : α → α)
    (orderFree : ∀ v, v.uniqueKeys = true → OrderFree read f v) (text : String) :
    outcome f (readAs shape read text) =
      (outcome Json.canonical (shape.ofText grammar text)).bind read := by
  unfold readAs
  cases inShape : shape.ofText grammar text with
  | error e => rfl
  | ok v =>
    have unique := Shape.uniqueKeys_ofText grammar grammar_strict shape strict text v inShape
    have same : read v.canonical = (read v).map f := orderFree v unique
    simp only [bind, Except.bind]
    cases decoded : read v with
    | none | some =>
      rw [decoded] at same
      exact same.symm

/-- A shuffled text is decoded if the text is, to the same project but for the order of the members
that records keep. -/
theorem Declaration.outcome_shuffled (text text' : String)
    (unique : (Source.ofText text).1.uniqueKeys = true)
    (shuffled : (Source.ofText text).1.Shuffled (Source.ofText text').1)
    (more : (Source.ofText text).2 = (Source.ofText text').2) :
    outcome Declaration.canonical (Declaration.ofText text) =
      outcome Declaration.canonical (Declaration.ofText text') := by
  have read := Reflection.outcome_readAs (.record .declaration) trivial Declaration.ofJson?
    Declaration.canonical fun v unique => (readsOrderFree v unique).declaration
  have content := Shape.outcome_ofSource Reflection.grammar Reflection.grammar_contentOnly
    (.record .declaration) trivial _ _ shuffled unique more
  exact (read text).trans ((congrArg (Option.bind · _) content).trans (read text').symm)

/-- Two texts without repeated keys that differ only in the order of the members of objects, at any
depth, are both decoded or both refused, and the documentation of what is decoded is the same JSON
value. -/
theorem assemble_shuffled (text text' : String)
    (unique : (Source.ofText text).1.uniqueKeys = true)
    (shuffled : (Source.ofText text).1.Shuffled (Source.ofText text').1)
    (more : (Source.ofText text).2 = (Source.ofText text').2) :
    ((∃ d, Declaration.ofText text = .ok d) ↔ ∃ d, Declaration.ofText text' = .ok d) ∧
    ∀ d d', Declaration.ofText text = .ok d → Declaration.ofText text' = .ok d' →
      ∀ r : Registry, r.Known → ∀ generatedAt,
        (Document.assemble d r generatedAt).toJson.canonical =
          (Document.assemble d' r generatedAt).toJson.canonical := by
  have same := Declaration.outcome_shuffled text text' unique shuffled more
  refine ⟨?_, fun d d' h h' r known generatedAt => ?_⟩
  · rw [exists_ok_iff Declaration.canonical, same, ← exists_ok_iff]
  · rw [h, h'] at same
    have canonical : d.canonical = d'.canonical := Option.some.inj same
    rw [← Document.content_assemble r known d (d.decoded (.text text h)), canonical,
      Document.content_assemble r known d' (d'.decoded (.text text' h'))]

/-- A project with a variable of a type that is not recognized, and the same with the members of
every object in reverse. -/
def forwardText : String :=
  "\x7b\"name\":\"p\",\"children\":[\x7b\"name\":\"f\",\"kind\":32,\"type\":" ++
    "\x7b\"a\":1,\"b\":2\x7d\x7d]\x7d"

def reversedText : String :=
  "\x7b\"children\":[\x7b\"type\":\x7b\"b\":2,\"a\":1\x7d,\"kind\":32,\"name\":\"f\"\x7d]," ++
    "\"name\":\"p\"\x7d"

theorem forwardText_shuffled :
    (Source.ofText forwardText).1.Shuffled (Source.ofText reversedText).1 := by
  let a : Source.Member := (.ok "a", .num (.ok (.whole 1)))
  let b : Source.Member := (.ok "b", .num (.ok (.whole 2)))
  let kind : Source.Member := (.ok "kind", .num (.ok (.whole 32)))
  let called (name : String) : Source.Member := (.ok "name", .str (.ok name))
  let typed (members : List Source.Member) : Source.Member := (.ok "type", .obj members .closed)
  let holding (members : List Source.Member) : Source.Member :=
    (.ok "children", .arr [.obj members .closed] .closed)
  have type : (Source.obj [a, b] .closed).Shuffled (.obj [b, a] .closed) :=
    .of_perm _ _ _ (.swap b a [])
  have item : (Source.obj [called "f", kind, typed [a, b]] .closed).Shuffled
      (.obj [typed [b, a], kind, called "f"] .closed) :=
    .members _ [called "f", kind, typed [b, a]] _ _
      (.cons (.intro _ _ _ (.same _)) (.cons (.intro _ _ _ (.same _))
        (.cons (.intro _ _ _ type) .nil))) (List.reverse_perm _).symm
  have forward : (Source.ofText forwardText).1 =
      .obj [called "p", holding [called "f", kind, typed [a, b]]] .closed := by cbv
  have reversed : (Source.ofText reversedText).1 =
      .obj [holding [typed [b, a], kind, called "f"], called "p"] .closed := by cbv
  rw [forward, reversed]
  exact .members _ [called "p", holding [typed [b, a], kind, called "f"]] _ _
    (.cons (.intro _ _ _ (.same _))
      (.cons (.intro _ _ _ (.items _ _ _ (.cons item .nil))) .nil)) (.swap _ _ [])

theorem assemble_shuffled_reversed :
    (Source.ofText forwardText).1.uniqueKeys = true ∧
    (Source.ofText forwardText).1.Shuffled (Source.ofText reversedText).1 ∧
    (Source.ofText forwardText).2 = (Source.ofText reversedText).2 ∧
    ∃ d d', Declaration.ofText forwardText = .ok d ∧ Declaration.ofText reversedText = .ok d' ∧
      Registry.default.Known ∧
      (Document.assemble d .default ⟨0, 0⟩).toJson.canonical =
        (Document.assemble d' .default ⟨0, 0⟩).toJson.canonical := by
  have unique : (Source.ofText forwardText).1.uniqueKeys = true := by decide +kernel
  have more : (Source.ofText forwardText).2 = (Source.ofText reversedText).2 := by decide +kernel
  obtain ⟨both, same⟩ := assemble_shuffled _ _ unique forwardText_shuffled more
  obtain ⟨d, h⟩ : ∃ d, Declaration.ofText forwardText = .ok d :=
    (exists_ok_iff (fun _ => ()) _).mpr (by decide +kernel)
  obtain ⟨d', h'⟩ := both.mp ⟨d, h⟩
  exact ⟨unique, forwardText_shuffled, more, d, d', h, h', Registry.known_default,
    same d d' h h' .default Registry.known_default ⟨0, 0⟩⟩

end TsWorkshop
