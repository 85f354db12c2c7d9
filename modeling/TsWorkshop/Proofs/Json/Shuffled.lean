import Mathlib.Data.List.Forall2
import TsWorkshop.Json.Source
import TsWorkshop.Proofs.Except
import TsWorkshop.Proofs.Json.Canonical

/-!
Texts with the members of their objects in another order. `Source.Shuffled` relates two such texts,
at any depth. Members that are read one by one and then put together (`gathered`) are the same
content in any order, as long as no key is repeated (`gathered_shuffled`). So a shuffled text has a
value if the text has one, with the same content, and is skipped if the text is (`Shuffled.alike`).
-/

namespace TsWorkshop.Source

/-- A member of an object as it stands in a text: its key, if that can be decoded, and its value. -/
abbrev Member := Except Complaint String × Source

/-- Two members with one key and related values. -/
inductive Matching (R : Source → Source → Prop) : Member → Member → Prop
  | intro (key : Except Complaint String) (s s' : Source) (h : R s s') :
    Matching R (key, s) (key, s')

/-- The second text is the first with the members of objects in another order, at any depth. -/
inductive Shuffled : Source → Source → Prop
  | same (s : Source) : Shuffled s s
  | items (xs ys : List Source) (ending : ListEnd) (parts : List.Forall₂ Shuffled xs ys) :
    Shuffled (arr xs ending) (arr ys ending)
  | members (ms renewed ns : List Member) (ending : ObjectEnd)
    (parts : List.Forall₂ (Matching Shuffled) ms renewed) (order : renewed.Perm ns) :
    Shuffled (obj ms ending) (obj ns ending)

theorem Shuffled.of_perm (ms ns : List Member) (ending : ObjectEnd) (order : ms.Perm ns) :
    Shuffled (obj ms ending) (obj ns ending) :=
  .members ms ms ns ending
    (List.forall₂_same.mpr fun m _ => .intro m.1 m.2 m.2 (.same m.2)) order

/-! ### Unique keys -/

/-- The keys of members, as far as they can be decoded. -/
def keys (ms : List Member) : List String := ms.filterMap fun m => m.1.toOption

mutual

/-- No object of the text has two members with one key. -/
def uniqueKeys : Source → Bool
  | arr items _ => uniqueKeysItems items
  | obj members _ => decide (keys members).Nodup && uniqueKeysMembers members
  | null | bool _ | num _ | str _ | stop _ _ => true

def uniqueKeysItems : List Source → Bool
  | [] => true
  | item :: rest => item.uniqueKeys && uniqueKeysItems rest

def uniqueKeysMembers : List (Except Complaint String × Source) → Bool
  | [] => true
  | (_, value) :: rest => value.uniqueKeys && uniqueKeysMembers rest

end

theorem uniqueKeys_arr_iff (items : List Source) (ending : ListEnd) :
    (arr items ending).uniqueKeys = true ↔ ∀ item ∈ items, item.uniqueKeys = true := by
  rw [uniqueKeys]
  induction items with
  | nil => simp [uniqueKeysItems]
  | cons item rest ih => simp [uniqueKeysItems, ih]

theorem uniqueKeys_obj_iff (ms : List Member) (ending : ObjectEnd) :
    (obj ms ending).uniqueKeys = true ↔
      (keys ms).Nodup ∧ ∀ m ∈ ms, m.2.uniqueKeys = true := by
  rw [uniqueKeys, Bool.and_eq_true, decide_eq_true_iff]
  refine and_congr_right fun distinct => ?_
  clear distinct
  induction ms with
  | nil => simp [uniqueKeysMembers]
  | cons m rest ih => rw [uniqueKeysMembers, Bool.and_eq_true, ih, List.forall_mem_cons]

theorem keys_matching (R : Source → Source → Prop) (ms ns : List Member)
    (h : List.Forall₂ (Matching R) ms ns) : keys ns = keys ms := by
  induction h with
  | nil => rfl
  | cons first _ ih =>
    obtain ⟨key, s, s', -⟩ := first
    cases key <;> simpa [keys, Except.toOption] using ih

/-! ### Induction -/

theorem sizeOf_item (item : Source) (items : List Source) (ending : ListEnd) (h : item ∈ items) :
    sizeOf item < sizeOf (arr items ending) := by
  have := List.sizeOf_lt_of_mem h
  simp only [arr.sizeOf_spec]
  omega

theorem sizeOf_member (m : Member) (ms : List Member) (ending : ObjectEnd) (h : m ∈ ms) :
    sizeOf m.2 < sizeOf (obj ms ending) := by
  have := List.sizeOf_lt_of_mem h
  obtain ⟨key, value⟩ := m
  simp only [Prod.mk.sizeOf_spec] at this
  simp only [obj.sizeOf_spec]
  omega

/-- Related lists are related in another way if each related pair is that comes from the first. -/
theorem forall₂_imp_mem {α β : Type} {R S : α → β → Prop} (xs : List α) (ys : List β)
    (h : List.Forall₂ R xs ys) (step : ∀ x ∈ xs, ∀ y, R x y → S x y) : List.Forall₂ S xs ys :=
  ((List.forall₂_and_left xs ys).mpr ⟨step, h⟩).imp fun _ y pair => pair.1 y pair.2

/-- Induction on a shuffled text without repeated keys: what relates the parts of an array, and the
values of an object's members before these are put in another order, relates the texts. -/
theorem Shuffled.induction_on {P : Source → Source → Prop} (s s' : Source) (h : Shuffled s s')
    (unique : s.uniqueKeys = true) (same : ∀ s, P s s)
    (items : ∀ xs ys ending, List.Forall₂ P xs ys → P (arr xs ending) (arr ys ending))
    (members : ∀ ms renewed ns ending, (keys ms).Nodup → List.Forall₂ (Matching P) ms renewed →
      renewed.Perm ns → P (obj ms ending) (obj ns ending)) : P s s' := by
  cases h with
  | same => exact same s
  | items xs ys ending parts =>
    have each := (uniqueKeys_arr_iff xs ending).mp unique
    refine items xs ys ending (forall₂_imp_mem xs ys parts fun x inside y related => ?_)
    have := sizeOf_item x xs ending inside
    exact Shuffled.induction_on x y related (each x inside) same items members
  | members ms renewed ns ending parts order =>
    obtain ⟨distinct, each⟩ := (uniqueKeys_obj_iff ms ending).mp unique
    refine members ms renewed ns ending distinct (forall₂_imp_mem ms renewed parts ?_) order
    rintro _ inside _ ⟨key, x, y, related⟩
    have := sizeOf_member (key, x) ms ending inside
    exact ⟨key, x, y, Shuffled.induction_on x y related (each _ inside) same items members⟩
termination_by sizeOf s

/-! ### Members put together -/

section Gathered

-- What one member comes to: it is refused, or it has no entry, or an entry.
variable (entry : Member → Option (Option (String × Json)))

/-- The entries of all members in order, unless one is refused. -/
def gathered (ms : List Member) : Option (Assoc Json) :=
  if ms.all fun m => (entry m).isSome then some (ms.filterMap fun m => (entry m).join) else none

@[simp] theorem gathered_nil : gathered entry [] = some [] := rfl

theorem gathered_cons (m : Member) (rest : List Member) :
    gathered entry (m :: rest) =
      (entry m).bind fun e => (gathered entry rest).map fun entries => e.toList ++ entries := by
  unfold gathered
  cases there : entry m with
  | none => simp [there]
  | some e =>
    cases e <;> by_cases fine : (rest.all fun m => (entry m).isSome) = true <;> simp [there, fine]

/-- Every entry stands under the key of its member. -/
def Keyed : Prop := ∀ m key v, entry m = some (some (key, v)) → m.1 = .ok key

/-- Members without repeated keys give entries without repeated keys. -/
theorem nodup_gathered (keyed : Keyed entry) (ms : List Member) (unique : (keys ms).Nodup)
    (entries : Assoc Json) (h : gathered entry ms = some entries) :
    (Assoc.keys entries).Nodup := by
  have among : (Assoc.keys entries).Sublist (keys ms) := by
    clear unique
    induction ms generalizing entries with
    | nil =>
      cases h
      exact List.Sublist.refl []
    | cons m rest ih =>
      rw [gathered_cons, Option.bind_eq_some_iff] at h
      obtain ⟨e, here, h⟩ := h
      obtain ⟨others, later, rfl⟩ := Option.map_eq_some_iff.mp h
      cases e with
      | none => exact (ih others later).trans ((List.sublist_cons_self m rest).filterMap _)
      | some e =>
        have key := keyed m e.1 e.2 here
        simp only [keys, List.filterMap_cons, key, Except.toOption]
        exact (ih others later).cons_cons _
  exact unique.sublist among

/-- The entry of a member with the content of its value. -/
def contentOf (m : Member) : Option (Option (String × Json)) :=
  (entry m).map (Option.map (Prod.map id Json.canonical))

theorem map_canonicalMembers_gathered (ms ns : List Member)
    (parts : List.Forall₂ (fun m n => contentOf entry m = contentOf entry n) ms ns) :
    (gathered entry ms).map Json.canonicalMembers =
      (gathered entry ns).map Json.canonicalMembers := by
  induction parts with
  | nil => rfl
  | @cons m n ms ns first _ ih =>
    have split (m : Member) (rest : List Member) :
        (gathered entry (m :: rest)).map Json.canonicalMembers =
          (contentOf entry m).bind fun e =>
            ((gathered entry rest).map Json.canonicalMembers).map fun entries =>
              e.toList ++ entries := by
      rw [gathered_cons]
      unfold contentOf
      rcases entry m with _ | _ | ⟨key, v⟩ <;> cases gathered entry rest <;>
        simp [Json.canonicalMembers]
    rw [split, split, first, ih]

/-- Without repeated keys, members that come to the same content come to it in any order. -/
theorem gathered_shuffled (keyed : Keyed entry) (ms renewed ns : List Member)
    (unique : (keys renewed).Nodup)
    (parts : List.Forall₂ (fun m n => contentOf entry m = contentOf entry n) ms renewed)
    (order : renewed.Perm ns) :
    (gathered entry ms).map Json.sortedMembers = (gathered entry ns).map Json.sortedMembers := by
  have inPlace : (gathered entry ms).map Json.sortedMembers =
      (gathered entry renewed).map Json.sortedMembers := by
    have same := congrArg (Option.map Assoc.sorted)
      (map_canonicalMembers_gathered entry ms renewed parts)
    rwa [Option.map_map, Option.map_map] at same
  rw [inPlace]
  unfold gathered
  rw [order.all_eq]
  split
  · have distinct := nodup_gathered entry keyed renewed unique _
      (if_pos (by rwa [order.all_eq]))
    rw [Option.map_some, Option.map_some]
    refine congrArg some (Assoc.sorted_perm ?_ (by simpa using distinct))
    rw [Json.canonicalMembers_eq_map, Json.canonicalMembers_eq_map]
    exact (order.filterMap _).map _
  · rfl

end Gathered

/-! ### Values -/

/-- What a member comes to when its whole value is read. -/
def valueEntry (room : Nat) (m : Member) : Option (Option (String × Json)) :=
  m.1.toOption.bind fun key => (m.2.value room).toOption.map fun v => some (key, v)

theorem keyed_valueEntry (room : Nat) : Keyed (valueEntry room) := by
  intro m key v h
  obtain ⟨first, there, h⟩ := Option.bind_eq_some_iff.mp h
  obtain ⟨w, -, same⟩ := Option.map_eq_some_iff.mp h
  cases same
  exact (toOption_eq_some_iff m.1 key).mp there

theorem toOption_valueMembers (room : Nat) (ms : List Member) :
    (valueMembers room ms).toOption = gathered (valueEntry room) ms := by
  induction ms with
  | nil => rfl
  | cons m rest ih =>
    obtain ⟨key, item⟩ := m
    rw [gathered_cons, ← ih, valueEntry, valueMembers]
    cases key with
    | error e => rfl
    | ok key =>
      cases item.value room with
      | error e => rfl
      | ok v => cases valueMembers room rest <;> rfl

theorem contentOf_valueEntry (room : Nat) (m : Member) :
    contentOf (valueEntry room) m =
      m.1.toOption.bind fun key =>
        (outcome Json.canonical (m.2.value room)).map fun v => some (key, v) := by
  unfold contentOf valueEntry outcome
  cases m.1.toOption <;> cases (m.2.value room).toOption <;> rfl

/-- Two texts that are skipped alike and have the same content. -/
structure Alike (s s' : Source) : Prop where
  isNull : s.isNull = s'.isNull
  skip : s.skip.isSome = s'.skip.isSome
  value : ∀ room, outcome Json.canonical (s.value room) = outcome Json.canonical (s'.value room)

theorem Alike.refl (s : Source) : Alike s s := ⟨rfl, rfl, fun _ => rfl⟩

theorem isSome_skipMembers (ms : List Member) :
    (skipMembers ms).isSome = ms.any fun m => m.2.skip.isSome := by
  induction ms with
  | nil => rfl
  | cons m rest ih => rw [skipMembers, Option.isSome_or, ih, List.any_cons]

theorem outcome_valueItems (room : Nat) (xs ys : List Source) (parts : List.Forall₂ Alike xs ys) :
    outcome (List.map Json.canonical) (valueItems room xs) =
      outcome (List.map Json.canonical) (valueItems room ys) := by
  induction parts with
  | nil => rfl
  | cons first _ ih =>
    refine outcome_bind _ _ _ _ _ _ (first.value room) fun v w same => ?_
    refine outcome_bind _ _ _ _ _ _ ih fun vs ws rest => ?_
    exact congrArg some (congrArg₂ List.cons same rest)

theorem Alike.items (xs ys : List Source) (ending : ListEnd) (parts : List.Forall₂ Alike xs ys) :
    Alike (arr xs ending) (arr ys ending) := by
  refine ⟨rfl, ?_, fun room => ?_⟩
  · have listed : (skipItems xs).isSome = (skipItems ys).isSome := by
      induction parts with
      | nil => rfl
      | cons first _ ih =>
        rw [skipItems, skipItems, Option.isSome_or, Option.isSome_or, first.skip, ih]
    rw [Source.skip, Source.skip, Option.isSome_or, Option.isSome_or, listed]
  · unfold Source.value
    split
    · rfl
    · refine outcome_bind _ _ _ _ _ _ (outcome_valueItems _ xs ys parts) fun vs ws same => ?_
      split
      · rfl
      · rw [outcome_pure, outcome_pure, Json.canonical_arr, same, Json.canonical_arr]

theorem Alike.members (ms renewed ns : List Member) (ending : ObjectEnd)
    (unique : (keys ms).Nodup) (parts : List.Forall₂ (Matching Alike) ms renewed)
    (order : renewed.Perm ns) : Alike (obj ms ending) (obj ns ending) := by
  refine ⟨rfl, ?_, fun room => ?_⟩
  · have listed : (skipMembers ms).isSome = (skipMembers renewed).isSome := by
      clear unique order
      induction parts with
      | nil => rfl
      | cons first _ ih =>
        obtain ⟨key, s, s', alike⟩ := first
        rw [skipMembers, skipMembers, Option.isSome_or, Option.isSome_or, alike.skip, ih]
    simp only [Source.skip]
    rw [Option.isSome_or, Option.isSome_or, listed, isSome_skipMembers renewed, order.any_eq,
      isSome_skipMembers ns]
  · unfold Source.value
    split
    · rfl
    · have read : outcome Json.sortedMembers (valueMembers (room - 1) ms) =
          outcome Json.sortedMembers (valueMembers (room - 1) ns) := by
        rw [outcome, outcome, toOption_valueMembers, toOption_valueMembers]
        refine gathered_shuffled _ (keyed_valueEntry _) ms renewed ns
          (keys_matching _ _ _ parts ▸ unique) (parts.imp ?_) order
        rintro _ _ ⟨key, s, s', alike⟩
        rw [contentOf_valueEntry, contentOf_valueEntry, alike.value]
      refine outcome_bind _ _ _ _ _ _ read fun vs ws same => ?_
      split
      · rfl
      · rw [outcome_pure, outcome_pure, Json.canonical_obj, same, Json.canonical_obj]

/-- A shuffled text without repeated keys is skipped alike and has the same content. -/
theorem Shuffled.alike (s s' : Source) (h : Shuffled s s') (unique : s.uniqueKeys = true) :
    Alike s s' :=
  h.induction_on s s' unique Alike.refl Alike.items Alike.members

end TsWorkshop.Source
