import TsWorkshop.Proofs.Reflection.Located

/-!
A malformed type is contained: whatever stands where a descriptor is read, the project is still
read, and nothing else in it changes. A path leads there step by step, and each step passes on what
holds of the next.
-/

namespace TsWorkshop

open Fields

/-- Whatever stands at the end of the path is read in its place. -/
def Part.Contains {α : Type} (part : Part α) (path : Json.Path) (p : Slot α) (v : Json) : Prop :=
  (∃ old, v.at? path = some old ∧ Descriptor.ofJson old = p.descriptor) ∧
  ∀ new, ∃ w, v.replace? path new = some w ∧ part.put? w = some (p.fill new)

section Steps

variable {α β : Type} (rest : Json.Path) (p : Slot β)

/-- A step to a field of a record. -/
theorem contains_key (read : Json → Option α) (parts : α → Assoc (Part α))
    (locates : Locates read parts) (part next : Part β) (put : α → β)
    (record : ∀ members a, read (.obj members) = some a →
      part.put? (.obj members) = some (put a))
    (v : Json) (a : α) (name : String) (hread : read v = some a)
    (h : ((Assoc.get? name (parts a)).map fun part => part.map put) = some next)
    (ih : ∀ v, next.Reads v → next.Contains rest p v) :
    part.Contains (.key name :: rest) p v := by
  obtain ⟨inner, listed, rfl⟩ := Option.map_eq_some_iff.mp h
  obtain ⟨members, old, rfl, found, reads, again⟩ :=
    locates v a name inner hread (Assoc.mem_of_get? name _ inner listed)
  obtain ⟨there, replaced⟩ := ih old (inner.reads_map put old reads)
  refine ⟨?_, fun new => ?_⟩
  · simpa [Json.at?, found] using there
  · obtain ⟨w, here, result⟩ := replaced new
    rw [Part.put?_map, Option.map_eq_some_iff] at result
    obtain ⟨b, hb, same⟩ := result
    refine ⟨.obj (Assoc.put name w members), by simp [Json.replace?, found, here], ?_⟩
    rw [record _ b (again w b hb), same]

theorem forall₂_set {γ δ : Type} (R : γ → δ → Prop) (xs : List γ) (ys : List δ)
    (h : List.Forall₂ R xs ys) (i : Nat) (x : γ) (y : δ) (related : R x y) :
    List.Forall₂ R (xs.set i x) (ys.set i y) := by
  induction h generalizing i with
  | nil => exact .nil
  | cons first others ih =>
    cases i with
    | zero => exact .cons related others
    | succ i => exact .cons first (ih i)

/-- A step to an item of a list. -/
theorem contains_item (read : Json → Option α) (part next : Part β) (put : List α → β)
    (list : ∀ w, part.put? w = (readList read w).map put) (item : α → Part β) (v : Json)
    (as : List α) (i : Nat) (hread : readList read v = some as)
    (h : as[i]?.map item = some next)
    (ih : ∀ a v, item a = next → read v = some a → next.Contains rest p v)
    (set : ∀ a w, (item a).put? w = (read w).map fun b => put (as.set i b)) :
    part.Contains (.item i :: rest) p v := by
  obtain ⟨items, rfl, each⟩ := (readList_eq_some_iff read v as).mp hread
  obtain ⟨a, found, rfl⟩ := Option.map_eq_some_iff.mp h
  obtain ⟨bound, rfl⟩ := List.getElem?_eq_some_iff.mp found
  have here : i < items.length := each.length_eq ▸ bound
  obtain ⟨there, replaced⟩ := ih as[i] items[i] rfl (each.get here bound)
  refine ⟨?_, fun new => ?_⟩
  · simpa [Json.at?, here] using there
  · obtain ⟨w, inside, result⟩ := replaced new
    rw [set, Option.map_eq_some_iff] at result
    obtain ⟨b, hb, same⟩ := result
    have again : readList read (.arr (items.set i w)) = some (as.set i b) :=
      (readList_eq_some_iff read _ _).mpr ⟨_, rfl, forall₂_set _ items as each i w b hb⟩
    refine ⟨.arr (items.set i w), by simp [Json.replace?, here, inside], ?_⟩
    rw [list, again, Option.map_some, same]

end Steps

/-- One step of a path: a part contains what the next part contains. -/
theorem Part.Contains.step {α : Type} (rest : Json.Path) (p : Slot α) (part next : Part α)
    (step : Json.Step) (h : part.step? step = some next)
    (ih : ∀ v, next.Reads v → next.Contains rest p v) (v : Json) (reads : part.Reads v) :
    part.Contains (step :: rest) p v := by
  cases step with
  | key name =>
    cases part with
    | type d put =>
      refine contains_key rest p _ _ locates_descriptor (.type d put) next put ?_ v d name
        (congrArg some reads) h ih
      exact fun members d hread => by rw [← Option.some.inj hread]; rfl
    | optionalType d put =>
      refine contains_key rest p _ _ locates_descriptor (.optionalType d put) next
        (fun d => put (some d)) ?_ v d name (congrArg some reads) h ih
      exact fun members d hread => by rw [← Option.some.inj hread]; rfl
    | declaration d put =>
      refine contains_key rest p _ _ locates_declaration (.declaration d put) next put ?_ v d name
        reads h ih
      exact fun members d hread => by simp [Part.put?, hread]
    | signature s put =>
      refine contains_key rest p _ _ locates_signature (.signature s put) next put ?_ v s name
        reads h ih
      exact fun members s hread => by simp [Part.put?, hread]
    | parameter q put =>
      refine contains_key rest p _ _ locates_parameter (.parameter q put) next put ?_ v q name
        reads h ih
      exact fun members q hread => by simp [Part.put?, hread]
    | types | declarations | signatures | parameters => cases h
  | item i =>
    cases part with
    | types ds put =>
      refine contains_item rest p _ (.types ds put) next put (fun _ => rfl) _ v ds i reads h ?_
        fun _ _ => rfl
      exact fun d v same hread => ih v (same ▸ Option.some.inj hread)
    | declarations ds put =>
      refine contains_item rest p _ (.declarations ds put) next put (fun _ => rfl) _ v ds i reads
        h ?_ fun _ _ => rfl
      exact fun d v same hread => ih v (same ▸ hread)
    | signatures ss put =>
      refine contains_item rest p _ (.signatures ss put) next put (fun _ => rfl) _ v ss i reads
        h ?_ fun _ _ => rfl
      exact fun s v same hread => ih v (same ▸ hread)
    | parameters ps put =>
      refine contains_item rest p _ (.parameters ps put) next put (fun _ => rfl) _ v ps i reads
        h ?_ fun _ _ => rfl
      exact fun q v same hread => ih v (same ▸ hread)
    | type | optionalType | declaration | signature | parameter => cases h

/-- Replacing a value at the end of a path gives a value that is read with the new one in place. -/
theorem Part.contains_of_slot? {α : Type} (path : Json.Path) (part : Part α) (v : Json)
    (p : Slot α) (reads : part.Reads v) (h : part.slot? path = some p) :
    part.Contains path p v := by
  induction path generalizing part v with
  | nil =>
    cases part with
    | type d put | optionalType d put =>
      cases h
      exact ⟨⟨v, rfl, reads⟩, fun new => ⟨new, rfl, rfl⟩⟩
    | types | declaration | declarations | signature | signatures | parameter | parameters =>
      cases h
  | cons step rest ih =>
    obtain ⟨next, moved, inside⟩ := Option.bind_eq_some_iff.mp h
    exact Part.Contains.step rest p part next step moved
      (fun v reads => ih next v reads inside) v reads

/-- Whatever replaces a value that is read as a descriptor, the project is still read. The result
is the project as it was but for that one place, where the new value is read. -/
theorem ofJson?_replace? (v : Json) (d : Declaration) (h : Declaration.ofJson? v = some d)
    (path : Json.Path) (p : Slot Declaration) (leads : d.slot? path = some p) :
    (∃ old, v.at? path = some old ∧ Descriptor.ofJson old = p.descriptor ∧ p.fill old = d) ∧
    ∀ new, ∃ w, v.replace? path new = some w ∧ Declaration.ofJson? w = some (p.fill new) ∧
      (p.fill new).slot? path = p.after new := by
  obtain ⟨⟨old, there, hread⟩, replaced⟩ :=
    Part.contains_of_slot? path (Part.declaration d fun d => d) v p h leads
  have whole : ∀ new, ∃ w, v.replace? path new = some w ∧
      Declaration.ofJson? w = some (p.fill new) := by
    intro new
    obtain ⟨w, here, result⟩ := replaced new
    exact ⟨w, here, by simpa [Part.put?] using result⟩
  refine ⟨⟨old, there, hread, ?_⟩, fun new => ?_⟩
  · obtain ⟨w, here, result⟩ := whole old
    rw [Json.replace?_of_at? path v old there, Option.some.injEq] at here
    rw [← here, h] at result
    exact (Option.some.inj result).symm
  · obtain ⟨w, here, result⟩ := whole new
    exact ⟨w, here, result, d.slot?_fill path p leads new⟩

/-- A project whose type is a reflected declaration with a union for its type. -/
def reflectedUnion : Json :=
  .obj [("name", .str "project"), ("type", .obj [("type", .str "reflection"),
    ("declaration", .obj [("name", .str "__type"), ("type", .obj [("type", .str "union"),
      ("types", .arr [.str "odd",
        .obj [("type", .str "intrinsic"), ("name", .str "string")]])])])])]

theorem ofJson?_replace?_reflectedUnion :
    let path : Json.Path := [.key "type", .key "declaration", .key "type", .key "types", .item 1]
    ∃ d p, Declaration.ofJson? reflectedUnion = some d ∧ d.slot? path = some p ∧
      ∀ new, ∃ w, reflectedUnion.replace? path new = some w ∧
        Declaration.ofJson? w = some (p.fill new) ∧ (p.fill new).slot? path = p.after new := by
  intro path
  have leads : ((Declaration.ofJson? reflectedUnion).bind fun d => d.slot? path).isSome = true := by
    decide +kernel
  obtain ⟨p, hp⟩ := Option.isSome_iff_exists.mp leads
  obtain ⟨d, hd, hp⟩ := Option.bind_eq_some_iff.mp hp
  exact ⟨d, p, hd, hp, (ofJson?_replace? reflectedUnion d hd path p hp).2⟩

end TsWorkshop
