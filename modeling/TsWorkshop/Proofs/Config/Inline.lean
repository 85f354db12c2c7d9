import TsWorkshop.Config.Inline
import TsWorkshop.Proofs.Config.Leaves

/-!
Values on one line never spell an absent value: no member of a dictionary is empty
(`ofText_filled`). A word is read from a dictionary only if its first member is empty, so what a
variable of the environment gives for a leaf is never one (`isDictionary_of_read_inline`).
-/

namespace TsWorkshop

namespace Inline

theorem fraction?_ne_empty (word : List Char) (s : Scalar) (h : fraction? word = some s) :
    s ≠ .empty := by
  unfold fraction? at h
  obtain ⟨-, h⟩ := Option.ite_none_right_eq_some.mp h
  obtain ⟨d, -, rfl⟩ := Option.map_eq_some_iff.mp h
  cases d.value with
  | none => simp
  | some x => simp

theorem whole?_ne_empty (word : List Char) (s : Scalar) (h : whole? word = some s) :
    s ≠ .empty := by
  unfold whole? at h
  rintro rfl
  split at h
  split at h
  · cases h
  · dsimp only at h
    split at h <;> split at h <;> cases h

theorem ofWord_ne_empty (word : List Char) : ofWord word ≠ .empty := by
  unfold ofWord
  cases fraction : fraction? word with
  | some s => exact fraction?_ne_empty word s fraction
  | none =>
    cases whole : whole? word with
    | some s => exact whole?_ne_empty word s whole
    | none => simp

theorem bareValue?_filled (steps : Nat) (cs : List Char) (data : Data) (rest : List Char)
    (h : bareValue? steps cs = some (data, rest)) : data ≠ .scalar .empty := by
  rintro rfl
  unfold bareValue? at h
  split at h
  · cases h
  · cases h
  · obtain ⟨_, -, h⟩ := Option.bind_eq_some_iff.mp h
    cases h
  · obtain ⟨_, -, h⟩ := Option.bind_eq_some_iff.mp h
    cases h
  · obtain ⟨_, -, h⟩ := Option.bind_eq_some_iff.mp h
    cases h
  · cases h
  · cases h
  · exact ofWord_ne_empty _ (Data.scalar.inj (Prod.mk.inj (Option.some.inj h)).1)

theorem value?_filled (steps : Nat) (cs : List Char) (data : Data) (rest : List Char)
    (h : value? steps cs = some (data, rest)) : data ≠ .scalar .empty := by
  cases steps with
  | zero => simp [value?] at h
  | succ steps =>
    rw [value?] at h
    obtain ⟨⟨data', rest'⟩, read, h⟩ := Option.bind_eq_some_iff.mp h
    obtain ⟨rfl, -⟩ := Prod.mk.inj (Option.some.inj h)
    exact bareValue?_filled _ _ _ _ read

theorem members?_filled (steps : Nat) (cs : List Char) (members : List (String × Data))
    (rest : List Char) (h : members? steps cs = some (members, rest)) :
    ∀ entry ∈ members, entry.2 ≠ .scalar .empty := by
  induction steps generalizing cs members rest with
  | zero =>
    rw [members?.eq_def] at h
    split at h
    · cases h
      simp
    · cases h
    · contradiction
  | succ steps ih =>
    rw [members?.eq_def] at h
    split at h
    · cases h
      simp
    · contradiction
    · rename_i steps' same _
      obtain rfl := Nat.succ.inj same
      obtain ⟨⟨key, afterKey⟩, -, h⟩ := Option.bind_eq_some_iff.mp h
      dsimp only at h
      split at h
      · obtain ⟨⟨item, afterItem⟩, readItem, h⟩ := Option.bind_eq_some_iff.mp h
        have first := value?_filled _ _ _ _ readItem
        dsimp only at h
        split at h
        · obtain ⟨⟨others, afterOthers⟩, readOthers, h⟩ := Option.bind_eq_some_iff.mp h
          obtain ⟨rfl, -⟩ := Prod.mk.inj (Option.some.inj h)
          simpa [first] using fun key data => ih _ _ _ readOthers (key, data)
        · obtain ⟨rfl, -⟩ := Prod.mk.inj (Option.some.inj h)
          simpa using first
        · cases h
      · cases h

/-- No member of a dictionary that is read is empty. -/
theorem bareValue?_members (steps : Nat) (cs : List Char) (members : List (String × Data))
    (rest : List Char) (h : bareValue? steps cs = some (.dict members, rest)) :
    ∀ entry ∈ members, entry.2 ≠ .scalar .empty := by
  unfold bareValue? at h
  split at h
  · cases h
  · cases h
  · obtain ⟨⟨read, rest'⟩, here, h⟩ := Option.bind_eq_some_iff.mp h
    obtain ⟨same, -⟩ := Prod.mk.inj (Option.some.inj h)
    obtain rfl := Data.dict.inj same
    exact members?_filled _ _ _ _ here
  · obtain ⟨_, -, h⟩ := Option.bind_eq_some_iff.mp h
    cases h
  · obtain ⟨_, -, h⟩ := Option.bind_eq_some_iff.mp h
    cases h
  · cases h
  · cases h
  · cases h

theorem ofText_filled (text : String) (members : List (String × Data))
    (h : ofText text = .dict members) : ∀ entry ∈ members, entry.2 ≠ .scalar .empty := by
  unfold ofText at h
  split at h
  · rename_i data read
    subst h
    rw [value?] at read
    obtain ⟨⟨data, rest⟩, read, h⟩ := Option.bind_eq_some_iff.mp read
    obtain ⟨rfl, -⟩ := Prod.mk.inj (Option.some.inj h)
    exact bareValue?_members _ _ _ _ read
  · cases h

end Inline

namespace Setting

/-- A dictionary that is read as a word has an empty member. -/
theorem empty_of_word {α : Type} (name : String) (known : List String) (meaning : Assoc α)
    (origin : Origin) (members : Assoc Setting) (a : α)
    (h : word name known meaning (.dict origin members) = .ok a) :
    ∃ entry ∈ members, ∃ o, entry.2 = .scalar o .empty := by
  cases members with
  | nil => cases h
  | cons entry rest =>
    obtain ⟨key, part⟩ := entry
    rw [word] at h
    split at h
    · obtain ⟨_, read, -⟩ := (bind_eq_ok_iff _ _ _).mp h
      have read := (mapError_eq_ok_iff _ _ _).mp read
      unfold unit at read
      split at read
      · exact ⟨_, List.mem_cons_self, _, rfl⟩
      · cases read
    · cases h

theorem ofDataMembers_eq_map (origin : Origin) (members : List (String × Data)) :
    ofDataMembers origin members = members.map fun entry => (entry.1, ofData origin entry.2) := by
  induction members with
  | nil => rfl
  | cons entry rest ih => rw [ofDataMembers, ih, List.map_cons]

theorem isDictionary_ofData (origin : Origin) (data : Data) :
    (ofData origin data).isDictionary = true ↔ ∃ members, data = .dict members := by
  cases data <;> simp [ofData, isDictionary]

/-- No word is read from a dictionary that stands on one line. -/
theorem isDictionary_of_word_inline {α : Type} (name : String) (known : List String)
    (meaning : Assoc α) (origin : Origin) (text : String) (a : α)
    (h : word name known meaning (ofData origin (Inline.ofText text)) = .ok a) :
    (ofData origin (Inline.ofText text)).isDictionary = false := by
  refine Bool.eq_false_iff.mpr fun dictionary => ?_
  obtain ⟨members, same⟩ := (isDictionary_ofData _ _).mp dictionary
  rw [same, ofData] at h
  obtain ⟨entry, inside, o, empty⟩ := empty_of_word _ _ _ _ _ _ h
  have listed := Assoc.mem_of_mem_sorted _ entry inside
  rw [ofDataMembers_eq_map] at listed
  obtain ⟨member, given, rfl⟩ := List.mem_map.mp listed
  have filled := Inline.ofText_filled text members same member given
  cases data : member.2 with
  | scalar s =>
    rw [data, ofData] at empty
    obtain ⟨-, rfl⟩ := Setting.scalar.inj empty
    exact filled data
  | list items =>
    rw [data] at empty
    cases empty
  | dict members =>
    rw [data] at empty
    cases empty

end Setting

/-- No leaf is read from a dictionary that stands on one line. -/
theorem Leaf.isDictionary_of_read_inline (leaf : Leaf) (origin : Origin) (text : String)
    (value : leaf.Value) (h : leaf.read (.ofData origin (Inline.ofText text)) = .ok value) :
    (Setting.ofData origin (Inline.ofText text)).isDictionary = false := by
  cases leaf with
  | uploader => exact Setting.isDictionary_of_word_inline _ _ _ _ _ _ h
  | mode => exact Setting.isDictionary_of_word_inline _ _ _ _ _ _ h
  | _ => exact Leaf.isDictionary_of_read _ _ value h rfl

end TsWorkshop
