import TsWorkshop.Docs.Document
import TsWorkshop.Proofs.Docs.Fields
import TsWorkshop.Proofs.Docs.Walk
import TsWorkshop.Proofs.Reflection.Decoded

/-!
No key is written twice, in a documentation file or in a record written back, whatever the text
that was read repeats. Fields have fixed names, each once; what a record keeps beside them was
folded when it was read, and no serializer adds to it.
-/

namespace TsWorkshop

open Fields

/-- A block as it is written, with a name and a kind, and so are the blocks under `children`. -/
inductive Json.Headed : Json → Prop
  | leaf (v : Json) (name kind : String) (named : v.field? "name" = some (.str name))
      (labelled : v.field? "kind" = some (.str kind)) (childless : v.field? "children" = none) :
      Headed v
  | container (v : Json) (name kind : String) (blocks : List Json)
      (named : v.field? "name" = some (.str name)) (labelled : v.field? "kind" = some (.str kind))
      (children : v.field? "children" = some (.arr blocks))
      (each : ∀ block ∈ blocks, Headed block) : Headed v

/-! ### Fields -/

/-- An object of distinct fields has unique keys if what is under them has. -/
theorem uniqueKeys_fields (fields : List (String × Option Json))
    (names : (fields.map Prod.fst).Nodup)
    (parts : ∀ field ∈ fields, field.2.all Json.uniqueKeys = true) :
    (Json.obj (written fields [])).uniqueKeys = true := by
  refine uniqueKeys_rewritten [] fields names rfl fun field inside w there => ?_
  simpa [there] using parts field inside

@[simp] theorem Json.uniqueKeys_str (s : String) : (Json.str s).uniqueKeys = true := rfl

theorem all_uniqueKeys_text (s : Option String) : (s.map Json.str).all Json.uniqueKeys = true := by
  cases s <;> simp

theorem all_uniqueKeys_comment (comment : Option Comment)
    (h : ∀ c, comment = some c → Decoded Comment.ofJson? c) :
    (comment.map Comment.toJson).all Json.uniqueKeys = true := by
  cases comment with
  | none => rfl
  | some c => exact c.uniqueKeys_toJson (h c rfl)

theorem uniqueKeys_map {α : Type} (write : α → Json) (as : List α)
    (each : ∀ a ∈ as, (write a).uniqueKeys = true) :
    (Json.arr (as.map write)).uniqueKeys = true := by
  rw [Json.uniqueKeys_arr_iff]
  intro v member
  obtain ⟨a, inside, rfl⟩ := List.mem_map.mp member
  exact each a inside

/-! ### Parts of a block -/

theorem TypeBlock.uniqueKeys_describe (type : Option Descriptor)
    (h : ∀ t, type = some t → Decoded Descriptor.ofJson? t) :
    (describe type).toJson.uniqueKeys = true := by
  rw [toJson_eq]
  refine uniqueKeys_fields _ (by simp [fields]) ?_
  cases type with
  | none => simp [fields, describe]
  | some t => simpa [fields, describe, summaryToJson] using t.uniqueKeys_toJson (h t rfl)

theorem TypeBlock.uniqueKeys_tagged (type : Descriptor) :
    (tagged type).toJson.uniqueKeys = true := by
  rw [toJson_eq]
  refine uniqueKeys_fields _ (by simp [fields]) ?_
  cases tag : type.tag? <;> simp [fields, tagged, summaryToJson, tag]

theorem Parameter.uniqueKeys_toBlock (p : Parameter) (h : Decoded Parameter.ofJson? p) :
    p.toBlock.toJson.uniqueKeys = true := by
  obtain ⟨type, comment⟩ := p.decoded_parts h
  rw [ParameterBlock.toJson_eq]
  refine uniqueKeys_fields _ (by simp [ParameterBlock.fields]) ?_
  simp only [ParameterBlock.fields, toBlock, List.forall_mem_cons, List.not_mem_nil,
    Option.all_some, Json.uniqueKeys_str, all_uniqueKeys_text, TypeBlock.uniqueKeys_describe _ type,
    all_uniqueKeys_comment _ comment]
  simp

theorem Signature.uniqueKeys_toBlock (s : Signature) (h : Decoded Signature.ofJson? s) :
    s.toBlock.toJson.uniqueKeys = true := by
  obtain ⟨comment, parameters, type⟩ := s.decodedParts h
  have returns := TypeBlock.uniqueKeys_describe _ type
  have params : (s.parameters.map fun ps => Json.arr
      ((ps.map Parameter.toBlock).map ParameterBlock.toJson)).all Json.uniqueKeys = true := by
    cases listed : s.parameters with
    | none => rfl
    | some ps =>
      rw [Option.map_some, Option.all_some, List.map_map]
      exact uniqueKeys_map _ ps fun p inside => p.uniqueKeys_toBlock (parameters ps listed p inside)
  rw [SignatureBlock.toJson_eq]
  refine uniqueKeys_fields _ (by simp [SignatureBlock.fields]) ?_
  simp only [SignatureBlock.fields, toBlock, List.forall_mem_cons, List.not_mem_nil,
    Option.map_map, Option.map_some, Option.all_some, Json.uniqueKeys_str, returns,
    all_uniqueKeys_comment _ comment]
  simpa [Function.comp_def] using params

theorem Signature.uniqueKeys_toConstructorBlock (s : Signature) (h : Decoded Signature.ofJson? s)
    (block : SignatureBlock) (written : s.toConstructorBlock? = some block) :
    block.toJson.uniqueKeys = true := by
  obtain ⟨type, -, rfl⟩ := Option.map_eq_some_iff.mp written
  rw [SignatureBlock.toJson_eq]
  refine uniqueKeys_fields _ (by simp [SignatureBlock.fields]) ?_
  simp [SignatureBlock.fields, TypeBlock.uniqueKeys_tagged,
    all_uniqueKeys_comment _ (s.decodedParts h).comment]

theorem Serializer.uniqueKeys_enumMember (d : Declaration) (h : Decoded Declaration.ofJson? d) :
    (enumMember d).toJson.uniqueKeys = true := by
  rw [EnumMemberBlock.toJson_eq]
  refine uniqueKeys_fields _ (by simp [EnumMemberBlock.fields]) ?_
  simp [EnumMemberBlock.fields, enumMember, all_uniqueKeys_text,
    all_uniqueKeys_comment _ (d.decodedParts h).comment]

/-! ### Fragments -/

/-- The signatures of a fragment have unique keys if they come from decoded ones. -/
theorem uniqueKeys_signatures (ss : List Signature)
    (each : ∀ s ∈ ss, Decoded Signature.ofJson? s) :
    (signatureBlocksToJson (ss.map Signature.toBlock)).uniqueKeys = true := by
  rw [signatureBlocksToJson, List.map_map]
  exact uniqueKeys_map _ ss fun s inside => s.uniqueKeys_toBlock (each s inside)

theorem uniqueKeys_accessorBlocks (ss : Option (OneOrMany Signature))
    (each : ∀ s, ss = some s → ∀ x ∈ s.toList, Decoded Signature.ofJson? x) :
    ((ss.map fun s => Serializer.accessorBlocks s.toList).map signatureBlocksToJson).all
      Json.uniqueKeys = true := by
  cases ss with
  | none => rfl
  | some s => exact uniqueKeys_signatures s.toList (each s rfl)

theorem uniqueKeys_typeParams (names : Option (List String)) :
    (names.map typeParamsToJson).all Json.uniqueKeys = true := by
  cases names with
  | none => rfl
  | some names => exact uniqueKeys_map _ names fun name _ => by simp [Json.uniqueKeys_obj_iff]

/-- Whatever a known serializer writes for a decoded declaration has unique keys. -/
theorem Serializer.uniqueKeys_fragment (s : Serializer) (listed : s.Listed) (d : Declaration)
    (h : Decoded Declaration.ofJson? d) :
    ∀ field ∈ (s.fragment d).fields, field.2.all Json.uniqueKeys = true := by
  have parts := d.decodedParts h
  have type := TypeBlock.uniqueKeys_describe _ parts.type
  have signatures := uniqueKeys_signatures _ parts.signatures
  cases listed with
  | constructor =>
    have blocks := uniqueKeys_map SignatureBlock.toJson
      ((d.signatures.getD []).filterMap Signature.toConstructorBlock?) fun block inside => by
        obtain ⟨s, declared, written⟩ := List.mem_filterMap.mp inside
        exact s.uniqueKeys_toConstructorBlock (parts.signatures s declared) block written
    simpa [constructor, Fragment.fields, signatureBlocksToJson] using blocks
  | method => simpa [method, Fragment.fields] using signatures
  | function => simpa [function, Fragment.fields] using signatures
  | variableDecl => simp [variableDecl, Fragment.fields, type, all_uniqueKeys_text]
  | property => simp [property, Fragment.fields, type]
  | enum =>
    have members := uniqueKeys_map (fun member => (enumMember member).toJson) d.members
      fun member inside => uniqueKeys_enumMember member (parts.members member inside)
    simpa [enum, Fragment.fields, Function.comp_def] using members
  | typeAlias =>
    have typeParams := uniqueKeys_typeParams (d.generics.map fun ps => ps.map fun p => p.name)
    simpa [typeAlias, Fragment.fields, type] using typeParams
  | accessor =>
    have getters := uniqueKeys_accessorBlocks _ parts.getSignature
    have setters := uniqueKeys_accessorBlocks _ parts.setSignature
    simpa [accessor, Fragment.fields] using And.intro getters setters

/-! ### The walk -/

/-- A block has unique keys if its comment and its fragment have. -/
theorem Block.uniqueKeys_toJson (b : Block)
    (comment : ∀ c, b.comment = some c → Decoded Comment.ofJson? c)
    (fragment : ∀ f, b.fragment = some f → ∀ field ∈ f.fields, field.2.all Json.uniqueKeys = true) :
    b.toJson.uniqueKeys = true := by
  rw [toJson_eq]
  refine uniqueKeys_fields _ b.nodup_fields fun field inside => ?_
  rcases List.mem_append.mp inside with inside | inside
  · have heading : ∀ field ∈ b.heading, field.2.all Json.uniqueKeys = true := by
      simp [Block.heading, all_uniqueKeys_comment _ comment]
    exact heading field inside
  · cases there : b.fragment with
    | none => simp [there] at inside
    | some f =>
      rw [there] at inside
      exact fragment f there field inside

theorem Declaration.uniqueKeys_toBlock (r : Registry) (known : r.Known) (d : Declaration)
    (h : Decoded Declaration.ofJson? d) : (d.toBlock r).toJson.uniqueKeys = true := by
  induction d using Declaration.induction_on_members with
  | step d ih =>
    have parts := d.decodedParts h
    have comment := (d.heading_toBlock r).2.2
    refine (d.toBlock r).uniqueKeys_toJson (comment ▸ parts.comment) fun f there => ?_
    cases kind : d.declaredKind.isContainer with
    | true =>
      obtain rfl := d.fragment_container r kind f there
      have blocks := uniqueKeys_map (fun member => (toBlock r member).toJson) d.members
        fun member inside => ih member inside (parts.members member inside)
      simpa [Fragment.fields, blocksToJson_eq_map, blocksOf_eq_map, Function.comp_def] using blocks
    | false =>
      obtain ⟨s, -, listed, rfl⟩ := d.fragment_other r known kind f there
      exact s.uniqueKeys_fragment listed d h

theorem Declaration.headed_toBlock (r : Registry) (known : r.Known) (d : Declaration) :
    (d.toBlock r).toJson.Headed := by
  induction d using Declaration.induction_on_members with
  | step d ih =>
    have named := (d.toBlock r).field?_of_mem "name" _ List.mem_cons_self
    have labelled := (d.toBlock r).field?_of_mem "kind" _
      (List.mem_cons_of_mem _ List.mem_cons_self)
    cases documents_toBlock r known d with
    | container _ _ kind _ _ listed =>
      by_cases none : d.members = []
      · exact Json.Headed.leaf _ _ _ named labelled (by rw [listed, if_pos none])
      · refine Json.Headed.container _ _ _ _ named labelled (by rw [listed, if_neg none]) ?_
        rw [children_toBlock_container r d kind, blocksToJson_eq_map, blocksOf_eq_map, List.map_map]
        intro block inside
        obtain ⟨member, declared, rfl⟩ := List.mem_map.mp inside
        exact ih member declared
    | other _ _ _ _ _ unlisted =>
      exact Json.Headed.leaf _ _ _ named labelled unlisted

/-- The keys of a documentation file, in the order in which they are written. -/
def Document.keys : List String := ["format_version", "generated_at", "workspaces", "children"]

/-- No key is written twice, at any depth: not in the documentation file of a project that comes out
of JSON, which has its four keys and only blocks with a name and a kind, and not in a record that
comes out of JSON and is written back. -/
theorem uniqueKeys_written :
    (∀ (project : Declaration) (r : Registry) (generatedAt : Timestamp),
      FromJson Declaration.ofText Declaration.ofJson? project → r.Known →
      ∃ members blocks,
        (Document.assemble project r generatedAt).toJson = .obj members ∧
        (Json.obj members).uniqueKeys = true ∧ Assoc.keys members = Document.keys ∧
        Assoc.get? "children" members = some (.arr blocks) ∧ ∀ block ∈ blocks, block.Headed) ∧
    (∀ d, FromJson Declaration.ofText Declaration.ofJson? d → d.toJson.uniqueKeys = true) ∧
    (∀ s, FromJson Signature.ofText Signature.ofJson? s → s.toJson.uniqueKeys = true) ∧
    (∀ c, FromJson Comment.ofText Comment.ofJson? c → c.toJson.uniqueKeys = true) ∧
    ∀ t, FromJson Descriptor.ofText Descriptor.ofJson? t → t.toJson.uniqueKeys = true := by
  refine ⟨fun project r generatedAt origin known => ?_,
    fun d h => d.uniqueKeys_toJson (d.decoded h), fun s h => s.uniqueKeys_toJson (s.decoded h),
    fun c h => c.uniqueKeys_toJson (c.decoded h), fun t h => t.uniqueKeys_toJson (t.decoded h)⟩
  have parts := project.decodedParts (project.decoded origin)
  have blocks := uniqueKeys_map (fun d => (d.toBlock r).toJson) project.members fun d inside =>
    d.uniqueKeys_toBlock r known (parts.members d inside)
  refine ⟨_, blocksToJson (blocksOf r project.members), rfl, ?_, rfl, rfl, ?_⟩
  · have distinct : Document.keys.Nodup := by decide
    refine (Json.uniqueKeys_obj_iff _).mpr ⟨distinct, fun key v member => ?_⟩
    simp only [List.mem_cons, Prod.mk.injEq, List.not_mem_nil, or_false] at member
    rcases member with ⟨-, rfl⟩ | ⟨-, rfl⟩ | ⟨-, rfl⟩ | ⟨-, rfl⟩
    · rfl
    · rfl
    · rfl
    · simpa [Document.assemble, blocksToJson_eq_map, blocksOf_eq_map, Function.comp_def]
        using blocks
  · rw [blocksToJson_eq_map, blocksOf_eq_map, List.map_map]
    intro block inside
    obtain ⟨d, -, rfl⟩ := List.mem_map.mp inside
    exact d.headed_toBlock r known

/-- A text with members that are repeated, which can be read as each of the records. -/
def repeatedText : String :=
  "\x7b\"name\":\"f\",\"type\":\"intrinsic\",\"flags\":1,\"flags\":[],\"children\":" ++
    "[\x7b\"name\":\"g\",\"sources\":1,\"sources\":2\x7d]\x7d"

theorem uniqueKeys_written_repeated :
    (∃ d, Declaration.ofText repeatedText = .ok d ∧ d.toJson.uniqueKeys = true ∧
      ∃ members blocks,
        (Document.assemble d .default ⟨0, 0⟩).toJson = .obj members ∧
        (Json.obj members).uniqueKeys = true ∧ Assoc.keys members = Document.keys ∧
        Assoc.get? "children" members = some (.arr blocks) ∧ ∀ block ∈ blocks, block.Headed) ∧
    (∃ s, Signature.ofText repeatedText = .ok s ∧ s.toJson.uniqueKeys = true) ∧
    (∃ c, Comment.ofText repeatedText = .ok c ∧ c.toJson.uniqueKeys = true) ∧
    ∃ t, Descriptor.ofText repeatedText = .ok t ∧ t.toJson.uniqueKeys = true := by
  have accepted {α : Type} (x : Except Complaint α) (h : x.isOk = true) : ∃ a, x = .ok a := by
    cases x with
    | error e => cases h
    | ok a => exact ⟨a, rfl⟩
  obtain ⟨d, hd⟩ := accepted (Declaration.ofText repeatedText) (by decide +kernel)
  obtain ⟨s, hs⟩ := accepted (Signature.ofText repeatedText) (by decide +kernel)
  obtain ⟨c, hc⟩ := accepted (Comment.ofText repeatedText) (by decide +kernel)
  obtain ⟨t, ht⟩ := accepted (Descriptor.ofText repeatedText) (by decide +kernel)
  obtain ⟨documents, declarations, signatures, comments, types⟩ := uniqueKeys_written
  exact ⟨⟨d, hd, declarations d (.text _ hd),
      documents d .default ⟨0, 0⟩ (.text _ hd) Registry.known_default⟩,
    ⟨s, hs, signatures s (.text _ hs)⟩, ⟨c, hc, comments c (.text _ hc)⟩,
    ⟨t, ht, types t (.text _ ht)⟩⟩

end TsWorkshop
