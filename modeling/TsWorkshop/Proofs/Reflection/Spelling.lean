import Mathlib.Logic.Relation
import TsWorkshop.Proofs.Reflection.Located
import TsWorkshop.Proofs.Reflection.OrderFree

/-!
Releases of TypeDoc spell some fields of a declaration in different ways. `Respelled` is one such
change in a declaration, at any depth, and `Json.Respelled` in the value that it is read from: a
value that is respelled reads as a respelled declaration, or is refused as it was before.
-/

namespace TsWorkshop

open Fields

/-- One field of one declaration, at any depth, in another spelling. -/
inductive Respelled : Declaration → Declaration → Prop
  | getSignature (d : Declaration) (s : Signature) (h : d.getSignature = some (.one s)) :
      Respelled d { d with getSignature := some (.many [s]) }
  | setSignature (d : Declaration) (s : Signature) (h : d.setSignature = some (.one s)) :
      Respelled d { d with setSignature := some (.many [s]) }
  | generics (d : Declaration) (ps : List TypeParameter) (h : d.typeParameter = some ps)
      (absent : d.typeParameters = none) :
      Respelled d { d with typeParameter := none, typeParameters := some ps }
  /-- The label is left out where the bit of the kind says the same. -/
  | kindString (d : Declaration) (n : UInt32) (kind : Kind) (bit : d.kind = some (.bits n))
      (resolved : Kind.ofBits? n = some kind) (h : d.kindString = some kind.label) :
      Respelled d { d with kindString := none }
  | member (d : Declaration) (before after : List Declaration) (m m' : Declaration)
      (children : d.children = some (before ++ m :: after)) (h : Respelled m m') :
      Respelled d { d with children := some (before ++ m' :: after) }

namespace Json

open Assoc (keys get?)

/-- One field of the object of one declaration, at any depth, in another spelling. -/
inductive Respelled : Json → Json → Prop
  | accessor (key : String) (place : key ∈ ["getSignature", "setSignature"])
      (before after s : Assoc Json) :
      Respelled (obj (before ++ (key, obj s) :: after))
        (obj (before ++ (key, arr [obj s]) :: after))
  /-- The other key is absent, and the parameters may stand in another place under it. -/
  | generics (before after before' after' : Assoc Json) (ps : Json)
      (others : before ++ after = before' ++ after')
      (absent : "typeParameter" ∉ keys (before ++ after))
      (absent' : "typeParameters" ∉ keys (before ++ after)) :
      Respelled (obj (before ++ ("typeParameter", ps) :: after))
        (obj (before' ++ ("typeParameters", ps) :: after'))
  | kindString (before after : Assoc Json) (n : UInt32) (kind : Kind)
      (bit : get? "kind" (before ++ after) = some (ofInt n.toNat))
      (resolved : Kind.ofBits? n = some kind) (absent : "kindString" ∉ keys (before ++ after)) :
      Respelled (obj (before ++ ("kindString", str kind.label) :: after)) (obj (before ++ after))
  | member (before after : Assoc Json) (items items' : List Json) (v w : Json)
      (h : Respelled v w) :
      Respelled (obj (before ++ ("children", arr (items ++ v :: items')) :: after))
        (obj (before ++ ("children", arr (items ++ w :: items')) :: after))

end Json

/-! ### Members in another place -/

section Insert

variable (key : String) (v : Json) (before after members : Assoc Json)

theorem get?_insert (absent : key ∉ Assoc.keys (before ++ after)) (name : String) :
    Assoc.get? name (before ++ (key, v) :: after) =
      Assoc.get? name ((key, v) :: (before ++ after)) := by
  rw [Assoc.keys_append, List.mem_append, not_or] at absent
  have missing := (Assoc.get?_eq_none_iff key before).mpr absent.1
  rw [Assoc.get?_append, Assoc.get?_cons, Assoc.get?_cons, Assoc.get?_append]
  by_cases same : key = name
  · subst same
    simp [missing]
  · simp [same]

theorem distinct_insert (known : List String) :
    distinct known (before ++ (key, v) :: after) =
      distinct known ((key, v) :: (before ++ after)) := by
  simp only [distinct, Assoc.count_eq_count_keys, Assoc.keys_append, Assoc.keys_cons,
    List.count_append, List.count_cons]
  congr 1
  funext name
  congr 1
  rw [← Nat.add_assoc]

theorem distinct_cons (known : List String) (absent : key ∉ Assoc.keys members) :
    distinct known ((key, v) :: members) = distinct known members := by
  rw [Bool.eq_iff_iff, distinct_iff, distinct_iff]
  refine forall₂_congr fun name _ => ?_
  by_cases same : key = name
  · subst same
    simp [List.count_eq_zero_of_not_mem absent]
  · simp [same]

theorem others_insert (known : List String) (field : key ∈ known) :
    others known (before ++ (key, v) :: after) = others known (before ++ after) := by
  simp [others_eq, List.filter_append, field]

theorem others_cons (known : List String) (field : key ∈ known) :
    others known ((key, v) :: members) = others known members :=
  others_insert key v [] members known field

theorem Declaration.ofJson?_insert (field : key ∈ fieldNames) :
    Declaration.ofJson? (.obj (before ++ (key, v) :: after)) =
      if key ∈ Assoc.keys (before ++ after) then none
      else Declaration.ofJson? (.obj ((key, v) :: (before ++ after))) := by
  have once := distinct_insert key v before after fieldNames
  by_cases there : key ∈ Assoc.keys (before ++ after)
  · have twice : distinct fieldNames ((key, v) :: (before ++ after)) = false := by
      rw [Bool.eq_false_iff, ne_eq, distinct_iff]
      intro few
      have := few key field
      have := List.count_pos_iff.mpr there
      rw [Assoc.keys_cons, List.count_cons_self] at *
      omega
    rw [ofJson?_obj, if_pos there, once, twice]
    rfl
  · have get := get?_insert key v before after there
    rw [if_neg there, ofJson?_obj, ofJson?_obj]
    simp only [readNullable, readRequired, nullable, get, once,
      others_insert key v before after _ field, others_cons key v (before ++ after) _ field]

end Insert

/-! ### A declaration with one field in front -/

section Front

variable {α : Type} (name other : String) (read : Json → Option α) (v w : Json)
  (members : Assoc Json)

theorem readRequired_cons (apart : name ≠ other) :
    readRequired other read ((name, v) :: members) = readRequired other read members := by
  rw [readRequired, readRequired, Assoc.get?_cons_of_ne _ _ _ _ apart]

theorem readNullable_cons : readNullable other read ((name, v) :: members) =
    if name = other then readOptional read v else readNullable other read members := by
  by_cases h : name = other
  · subst h
    cases v <;> simp [readNullable, nullable, readRequired, readOptional]
  · simp [readNullable, nullable, readRequired, Assoc.get?_cons, h]

theorem readNullable_of_not_mem (absent : name ∉ Assoc.keys members) :
    readNullable name read members = some none := by
  rw [readNullable, nullable, (Assoc.get?_eq_none_iff name members).mpr absent]

end Front

/-- What is read before a change is read after it as well. -/
theorem bind_same {α β : Type} (x : Option α) (next after : α → Option β) (k : β → β)
    (h : ∀ a, after a = (next a).map k) : x.bind after = (x.bind next).map k := by
  cases x with
  | none => rfl
  | some a => exact h a

namespace NestedField

variable (field : NestedField) (members : Assoc Json) (v w : Json)

/-- A field that holds other reflections can be read apart from the rest of a declaration. -/
theorem ofJson?_cons (absent : field.key ∉ Assoc.keys members)
    (f : Option field.Value → Option field.Value)
    (h : readOptional field.read w = (readOptional field.read v).map f) :
    Declaration.ofJson? (.obj ((field.key, w) :: members)) =
      (Declaration.ofJson? (.obj ((field.key, v) :: members))).map fun d =>
        field.set (f (field.get d)) d := by
  have extra := fun v => others_cons field.key v members _ field.key_mem
  rw [Declaration.ofJson?_obj, Declaration.ofJson?_obj, distinct_cons _ _ _ _ absent,
    distinct_cons _ _ _ _ absent]
  cases distinct Declaration.fieldNames members with
  | false => rfl
  | true =>
    cases field <;> simp only [key, read] at h extra <;>
      simp only [key, readNullable_cons, readRequired_cons, String.reduceEq, ↓reduceIte, ne_eq,
        not_false_eq_true, h, extra]
    all_goals
      repeat refine bind_same _ _ _ _ fun _ => ?_
      refine bind_orderFree _ f _ _ _ fun _ => ?_
      repeat refine bind_same _ _ _ _ fun _ => ?_
      rfl

theorem readOptional_of_cons (d : Declaration)
    (h : Declaration.ofJson? (.obj ((field.key, v) :: members)) = some d) :
    readOptional field.read v = some (field.get d) := by
  have r := (Declaration.ofJson?_obj_iff _ d).mp h
  have read := field.readNullable_of_readFrom _ d r
  rwa [readNullable_cons, if_pos rfl] at read

end NestedField

namespace Declaration

variable (members : Assoc Json) (v w : Json)

/-- The generic parameters are read in the same way under either key. -/
theorem ofJson?_generics (absent : "typeParameter" ∉ Assoc.keys members)
    (absent' : "typeParameters" ∉ Assoc.keys members) :
    ofJson? (.obj (("typeParameters", v) :: members)) =
      (ofJson? (.obj (("typeParameter", v) :: members))).map fun d =>
        { d with typeParameter := none, typeParameters := d.typeParameter } := by
  rw [ofJson?_obj, ofJson?_obj, distinct_cons _ _ _ _ absent, distinct_cons _ _ _ _ absent']
  cases distinct fieldNames members with
  | false => rfl
  | true =>
    simp only [readNullable_cons, readRequired_cons, String.reduceEq, ↓reduceIte, ne_eq,
      not_false_eq_true, readNullable_of_not_mem _ _ _ absent,
      readNullable_of_not_mem _ _ _ absent',
      others_cons "typeParameter" v members fieldNames (by decide),
      others_cons "typeParameters" v members fieldNames (by decide)]
    repeat refine bind_same _ _ _ _ fun _ => ?_
    refine bind_same (readOptional (readList TypeParameter.ofJson?) v) _ _ _ fun _ => ?_
    refine bind_same (readNullable "defaultValue" Json.text? members) _ _ _ fun _ => ?_
    rfl

theorem ofJson?_kindString (absent : "kindString" ∉ Assoc.keys members) (label : String) :
    ofJson? (.obj members) =
      (ofJson? (.obj (("kindString", .str label) :: members))).map fun d =>
        { d with kindString := none } := by
  rw [ofJson?_obj, ofJson?_obj, distinct_cons _ _ _ _ absent]
  cases distinct fieldNames members with
  | false => rfl
  | true =>
    simp only [readNullable_cons, readRequired_cons, String.reduceEq, ↓reduceIte, ne_eq,
      not_false_eq_true, readNullable_of_not_mem _ _ _ absent,
      others_cons "kindString" _ members fieldNames (by decide)]
    repeat refine bind_same _ _ _ _ fun _ => ?_
    refine bind_same (readNullable "comment" Comment.ofJson? members) _ _ _ fun _ => ?_
    repeat refine bind_same _ _ _ _ fun _ => ?_
    rfl

end Declaration

/-! ### Reading a respelled value -/

/-- Both are nothing, or respelled in any number of steps. -/
abbrev SameSpelt (x y : Option Declaration) : Prop := Option.Rel (Relation.EqvGen Respelled) x y

theorem SameSpelt.refl (x : Option Declaration) : SameSpelt x x := by
  cases x with
  | none => exact .none
  | some d => exact .some (.refl d)

theorem SameSpelt.symm (x y : Option Declaration) (h : SameSpelt x y) : SameSpelt y x := by
  cases h with
  | none => exact .none
  | some h => exact .some (.symm _ _ h)

theorem SameSpelt.trans (x y z : Option Declaration) (h : SameSpelt x y) (h' : SameSpelt y z) :
    SameSpelt x z := by
  cases h with
  | none => exact h'
  | some h =>
    cases h' with
    | some h' => exact .some (.trans _ _ _ h h')

theorem sameSpelt_map (x : Option Declaration) (f : Declaration → Declaration)
    (h : ∀ d, x = some d → Relation.EqvGen Respelled d (f d)) : SameSpelt x (x.map f) := by
  cases x with
  | none => exact .none
  | some d => exact .some (h d rfl)

/-- A member of a declaration can be respelled any number of times. -/
theorem eqvGen_member (d : Declaration) (before after : List Declaration) (m m' : Declaration)
    (children : d.children = some (before ++ m :: after)) (h : Relation.EqvGen Respelled m m') :
    Relation.EqvGen Respelled d { d with children := some (before ++ m' :: after) } := by
  have around : Relation.EqvGen Respelled { d with children := some (before ++ m :: after) }
      { d with children := some (before ++ m' :: after) } := by
    clear children
    induction h with
    | rel m m' h => exact .rel _ _ (.member _ before after m m' rfl h)
    | refl => exact .refl _
    | symm _ _ _ ih => exact .symm _ _ ih
    | trans _ _ _ _ _ first second => exact .trans _ _ _ first second
  cases d
  cases children
  exact around

/-- A field in its place, or in front if it is there once. -/
theorem sameSpelt_insert (key key' : String) (field : key ∈ Declaration.fieldNames)
    (field' : key' ∈ Declaration.fieldNames) (v w : Json) (before after before' after' : Assoc Json)
    (others : before ++ after = before' ++ after')
    (absent : key ∈ Assoc.keys (before ++ after) ↔ key' ∈ Assoc.keys (before ++ after))
    (front : key ∉ Assoc.keys (before ++ after) →
      SameSpelt (Declaration.ofJson? (.obj ((key, v) :: (before ++ after))))
        (Declaration.ofJson? (.obj ((key', w) :: (before ++ after))))) :
    SameSpelt (Declaration.ofJson? (.obj (before ++ (key, v) :: after)))
      (Declaration.ofJson? (.obj (before' ++ (key', w) :: after'))) := by
  rw [Declaration.ofJson?_insert _ _ _ _ field, Declaration.ofJson?_insert _ _ _ _ field', ← others]
  by_cases there : key ∈ Assoc.keys (before ++ after)
  · rw [if_pos there, if_pos (absent.mp there)]
    exact .none
  · rw [if_neg there, if_neg (absent.not.mp there)]
    exact front there

/-- Another value in a field that holds other reflections, read as what the first one is changed
to. -/
theorem sameSpelt_field (field : NestedField) (members : Assoc Json) (v w : Json)
    (absent : field.key ∉ Assoc.keys members) (f : Option field.Value → Option field.Value)
    (h : readOptional field.read w = (readOptional field.read v).map f)
    (related : ∀ d, readOptional field.read v = some (field.get d) →
      Relation.EqvGen Respelled d (field.set (f (field.get d)) d)) :
    SameSpelt (Declaration.ofJson? (.obj ((field.key, v) :: members)))
      (Declaration.ofJson? (.obj ((field.key, w) :: members))) := by
  rw [field.ofJson?_cons members v w absent f h]
  exact sameSpelt_map _ _ fun d read => related d (field.readOptional_of_cons members v d read)

/-- A signature in an array of its own is read as it is read alone. -/
theorem readOptional_signatures (s : Assoc Json) :
    readOptional Signature.oneOrManyOfJson? (.arr [.obj s]) =
      (readOptional Signature.oneOrManyOfJson? (.obj s)).map
        (Option.map fun ss => .many ss.toList) := by
  cases h : Signature.ofJson? (.obj s) <;>
    simp [readOptional, Signature.oneOrManyOfJson?, h, OneOrMany.toList]

theorem readOptional_signature (s : Assoc Json) (ss : Option (OneOrMany Signature))
    (h : readOptional Signature.oneOrManyOfJson? (.obj s) = some ss) : ∃ x, ss = some (.one x) := by
  obtain ⟨one, read, rfl⟩ := Option.map_eq_some_iff.mp h
  obtain ⟨x, -, rfl⟩ := Option.map_eq_some_iff.mp read
  exact ⟨x, rfl⟩

theorem sameSpelt_accessor (key : String) (place : key ∈ ["getSignature", "setSignature"])
    (members s : Assoc Json) (absent : key ∉ Assoc.keys members) :
    SameSpelt (Declaration.ofJson? (.obj ((key, .obj s) :: members)))
      (Declaration.ofJson? (.obj ((key, .arr [.obj s]) :: members))) := by
  simp only [List.mem_cons, List.not_mem_nil, or_false] at place
  rcases place with rfl | rfl
  · refine sameSpelt_field .getSignature members _ _ absent _ (readOptional_signatures s)
      fun d h => ?_
    obtain ⟨x, one⟩ := readOptional_signature s _ h
    rw [one]
    exact .rel _ _ (.getSignature d x one)
  · refine sameSpelt_field .setSignature members _ _ absent _ (readOptional_signatures s)
      fun d h => ?_
    obtain ⟨x, one⟩ := readOptional_signature s _ h
    rw [one]
    exact .rel _ _ (.setSignature d x one)

theorem sameSpelt_generics (members : Assoc Json) (ps : Json)
    (absent : "typeParameter" ∉ Assoc.keys members)
    (absent' : "typeParameters" ∉ Assoc.keys members) :
    SameSpelt (Declaration.ofJson? (.obj (("typeParameter", ps) :: members)))
      (Declaration.ofJson? (.obj (("typeParameters", ps) :: members))) := by
  rw [Declaration.ofJson?_generics members ps absent absent']
  refine sameSpelt_map _ _ fun d h => ?_
  have read := ((Declaration.ofJson?_obj_iff _ d).mp h).typeParameters
  rw [readNullable_cons, if_neg (by decide), readNullable_of_not_mem _ _ _ absent',
    Option.some.injEq] at read
  cases there : d.typeParameter with
  | none =>
    obtain ⟨⟩ := d
    cases there
    cases read
    exact .refl _
  | some ps => exact .rel _ _ (.generics d ps there read.symm)

theorem RawKind.ofJson?_bits (n : UInt32) : RawKind.ofJson? (.ofInt n.toNat) = some (.bits n) := by
  have := n.toNat_lt
  have range : (0 : Int) ≤ n.toNat ∧ (n.toNat : Int) ≤ Word.unsignedMax32 := by
    unfold Word.unsignedMax32
    omega
  simp [Json.ofInt, RawKind.ofJson?, range]

theorem sameSpelt_kindString (members : Assoc Json) (n : UInt32) (kind : Kind)
    (bit : Assoc.get? "kind" members = some (.ofInt n.toNat))
    (resolved : Kind.ofBits? n = some kind) (absent : "kindString" ∉ Assoc.keys members) :
    SameSpelt (Declaration.ofJson? (.obj (("kindString", .str kind.label) :: members)))
      (Declaration.ofJson? (.obj members)) := by
  rw [Declaration.ofJson?_kindString members absent kind.label]
  refine sameSpelt_map _ _ fun d h => ?_
  have r := (Declaration.ofJson?_obj_iff _ d).mp h
  have label := r.kindString
  rw [readNullable_cons, if_pos rfl] at label
  have raw := r.kind
  rw [readNullable_cons, if_neg (by decide)] at raw
  rcases (readNullable_eq_some_iff _ _ _ _).mp raw with
    ⟨-, absent | null⟩ | ⟨v, b, found, -, read, there⟩
  · rw [bit] at absent
    cases absent
  · rw [bit] at null
    cases null
  · obtain rfl := Option.some.inj (bit.symm.trans found)
    obtain rfl := Option.some.inj ((RawKind.ofJson?_bits n).symm.trans read)
    exact .rel _ _ (.kindString d n kind there resolved (Option.some.inj label).symm)

section Items

variable {α : Type} (read : Json → Option α) (items items' : List Json) (v : Json)

theorem readList_middle : readList read (.arr (items ++ v :: items')) =
    (items.mapM read).bind fun before =>
      (read v).bind fun a => (items'.mapM read).map fun after => before ++ a :: after := by
  simp only [readList, List.mapM_append, List.mapM_cons, Option.bind_eq_bind, Option.pure_def,
    Option.map_eq_bind, Option.bind_assoc, Option.bind_some, Function.comp_def]

/-- A list in which one item is read is read around it. -/
theorem exists_of_readList_middle (a : α) (h : read v = some a) (as : List α)
    (whole : readList read (.arr (items ++ v :: items')) = some as) :
    ∃ before after, before.length = items.length ∧ as = before ++ a :: after := by
  rw [readList_middle, h] at whole
  obtain ⟨before, first, whole⟩ := Option.bind_eq_some_iff.mp whole
  obtain ⟨after, -, rfl⟩ := Option.map_eq_some_iff.mp whole
  exact ⟨before, after, ((mapM_eq_some_iff read items before).mp first).length_eq.symm, rfl⟩

/-- Another item in its place, if it is read too, changes nothing else in the list. -/
theorem readList_set (w : Json) (a b : α) (h : read v = some a) (h' : read w = some b) :
    readList read (.arr (items ++ w :: items')) =
      (readList read (.arr (items ++ v :: items'))).map fun as => as.set items.length b := by
  rw [readList_middle, readList_middle, h, h']
  cases first : items.mapM read with
  | none => rfl
  | some before =>
    have length := ((mapM_eq_some_iff read items before).mp first).length_eq
    simp [Option.map_map, Function.comp_def, length]

end Items

theorem sameSpelt_member (members : Assoc Json) (items items' : List Json) (v w : Json)
    (absent : "children" ∉ Assoc.keys members)
    (h : SameSpelt (Declaration.ofJson? v) (Declaration.ofJson? w)) :
    SameSpelt (Declaration.ofJson? (.obj (("children", .arr (items ++ v :: items')) :: members)))
      (Declaration.ofJson? (.obj (("children", .arr (items ++ w :: items')) :: members))) := by
  cases hv : Declaration.ofJson? v with
  | none =>
    rw [hv] at h
    cases hw : Declaration.ofJson? w with
    | some m' =>
      rw [hw] at h
      cases h
    | none =>
      have same : readOptional (readList Declaration.ofJson?) (.arr (items ++ w :: items')) =
          (readOptional (readList Declaration.ofJson?) (.arr (items ++ v :: items'))).map id := by
        simp [readOptional, readList_middle, hv, hw]
      refine sameSpelt_field .children members _ _ absent id same fun d _ => ?_
      cases d
      exact .refl _
  | some m =>
    rw [hv] at h
    cases hw : Declaration.ofJson? w with
    | none =>
      rw [hw] at h
      cases h
    | some m' =>
      rw [hw] at h
      obtain ⟨related⟩ := h
      have same : readOptional (readList Declaration.ofJson?) (.arr (items ++ w :: items')) =
          (readOptional (readList Declaration.ofJson?) (.arr (items ++ v :: items'))).map
            (Option.map fun ds => ds.set items.length m') := by
        simp [readOptional, readList_set _ _ _ _ w m m' hv hw, Option.map_map, Function.comp_def]
      refine sameSpelt_field .children members _ _ absent _ same fun d read => ?_
      obtain ⟨ds, whole, there⟩ := Option.map_eq_some_iff.mp read
      obtain ⟨before, after, length, rfl⟩ := exists_of_readList_middle _ _ _ _ m hv ds whole
      rw [← there, ← length]
      simpa [NestedField.set] using eqvGen_member d before after m m' there.symm related

theorem Json.Respelled.sameSpelt (v w : Json) (h : Json.Respelled v w) :
    SameSpelt (Declaration.ofJson? v) (Declaration.ofJson? w) := by
  induction h with
  | accessor key place before after s =>
    have field : key ∈ Declaration.fieldNames := by
      simp only [List.mem_cons, List.not_mem_nil, or_false] at place
      rcases place with rfl | rfl <;> decide
    exact sameSpelt_insert key key field field _ _ _ _ _ _ rfl Iff.rfl
      (sameSpelt_accessor key place _ s)
  | generics before after before' after' ps others absent absent' =>
    exact sameSpelt_insert _ _ (by decide) (by decide) _ _ _ _ _ _ others
      (iff_of_false absent absent') fun _ => sameSpelt_generics _ ps absent absent'
  | kindString before after n kind bit resolved absent =>
    rw [Declaration.ofJson?_insert _ _ _ _ (by decide), if_neg absent]
    exact sameSpelt_kindString _ n kind bit resolved absent
  | member before after items items' v w h ih =>
    exact sameSpelt_insert _ _ (by decide) (by decide) _ _ _ _ _ _ rfl Iff.rfl
      fun absent => sameSpelt_member _ items items' v w absent ih

/-- Values that are respelled in any number of steps read as respelled declarations, or are all
refused. -/
theorem sameSpelt_of_eqvGen (v w : Json) (h : Relation.EqvGen Json.Respelled v w) :
    SameSpelt (Declaration.ofJson? v) (Declaration.ofJson? w) := by
  induction h with
  | rel v w h => exact h.sameSpelt
  | refl v => exact SameSpelt.refl _
  | symm _ _ _ ih => exact SameSpelt.symm _ _ ih
  | trans _ _ _ _ _ first second => exact SameSpelt.trans _ _ _ first second

end TsWorkshop
