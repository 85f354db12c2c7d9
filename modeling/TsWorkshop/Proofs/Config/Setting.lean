import TsWorkshop.Config.Setting
import TsWorkshop.Proofs.Assoc

/-!
What stands in a setting that was laid over another one. Along keys, on whose way the later setting
has nothing but dictionaries, the parts of the two are laid over each other (`at?_overlaid`): where
the later one has no part the earlier one's is kept, and a part that is no dictionary replaces what
was there as a whole.
-/

namespace TsWorkshop.Setting

def isDictionary : Setting → Bool
  | dict _ _ => true
  | _ => false

/-- The part of a setting that keys lead to. -/
def at? (s : Setting) : List String → Option Setting
  | [] => some s
  | key :: rest => (s.members.get? key).bind fun part => part.at? rest

@[simp] theorem at?_singleton (s : Setting) (key : String) :
    s.at? [key] = s.members.get? key := by
  cases there : s.members.get? key <;> simp [at?, there]

/-- What stands on the way along keys is a dictionary, as far as there is anything. -/
def Open (s : Setting) : List String → Prop
  | [] => True
  | key :: rest => s.isDictionary ∧ ∀ part, s.members.get? key = some part → part.Open rest

/-- The keys of the dictionaries increase. What a list holds does not matter, because it is never
taken apart. -/
inductive Ordered : Setting → Prop
  | scalar (origin : Origin) (s : Scalar) : Ordered (.scalar origin s)
  | list (origin : Origin) (items : List Setting) : Ordered (.list origin items)
  | dict (origin : Origin) (members : Assoc Setting) (ascending : members.Ascending)
      (parts : ∀ entry ∈ members, Ordered entry.2) : Ordered (.dict origin members)

variable {s earlier later : Setting}

theorem Ordered.ascending (h : Ordered s) : s.members.Ascending := by
  cases h with
  | scalar => exact List.Pairwise.nil
  | list => exact List.Pairwise.nil
  | dict _ _ ascending => exact ascending

theorem Ordered.part (h : Ordered s) (key : String) (part : Setting)
    (there : s.members.get? key = some part) : Ordered part := by
  have inside := Assoc.mem_of_get? key _ part there
  cases h with
  | scalar => cases inside
  | list => cases inside
  | dict _ _ _ parts => exact parts _ inside

theorem Ordered.at? (h : Ordered s) (keys : List String) (part : Setting)
    (there : s.at? keys = some part) : Ordered part := by
  induction keys generalizing s with
  | nil =>
    cases there
    exact h
  | cons key rest ih =>
    obtain ⟨next, here, there⟩ := Option.bind_eq_some_iff.mp there
    exact ih (h.part key next here) there

mutual

theorem ordered_ofData (origin : Origin) : ∀ data : Data, Ordered (ofData origin data)
  | .scalar s => Ordered.scalar origin s
  | .list _ => Ordered.list origin _
  | .dict members =>
    Ordered.dict origin _ (Assoc.ascending_sorted _) fun entry inside =>
      ordered_ofDataMembers origin members entry (Assoc.mem_of_mem_sorted _ entry inside)

theorem ordered_ofDataMembers (origin : Origin) :
    ∀ (members : List (String × Data)), ∀ entry ∈ ofDataMembers origin members, Ordered entry.2
  | [], _, inside => by cases inside
  | (key, value) :: rest, entry, inside => by
    rcases List.mem_cons.mp inside with rfl | later
    · exact ordered_ofData origin value
    · exact ordered_ofDataMembers origin rest entry later

end

/-! ### Laying one over the other -/

/-- What comes of a part that the earlier and the later setting may have. -/
def laid : Option Setting → Option Setting → Option Setting
  | earlier, none => earlier
  | none, some later => some later
  | some earlier, some later => some (overlaid earlier later)

@[simp] theorem laid_none (part : Option Setting) : laid part none = part := by
  cases part <;> rfl

@[simp] theorem none_laid (part : Option Setting) : laid none part = part := by
  cases part <;> rfl

mutual

theorem Ordered.overlaid (earlier : Setting) (he : Ordered earlier) :
    ∀ later : Setting, Ordered later → Ordered (earlier.overlaid later)
  | .scalar origin s, _ => Ordered.scalar origin s
  | .list origin items, _ => Ordered.list origin items
  | .dict origin members, hl => by
    have parts : ∀ entry ∈ members, Ordered entry.2 := by
      cases hl with
      | dict _ _ _ parts => exact parts
    obtain ⟨ascending, ordered⟩ := ordered_overlaidMembers earlier.members he.ascending
      (fun entry inside => he.part entry.1 entry.2
        (Assoc.get?_of_mem _ he.ascending.nodup_keys _ _ inside)) members parts
    exact Ordered.dict origin _ ascending ordered

theorem ordered_overlaidMembers (earlier : Assoc Setting) (ascending : earlier.Ascending)
    (ordered : ∀ entry ∈ earlier, Ordered entry.2) :
    ∀ later : List (String × Setting), (∀ entry ∈ later, Ordered entry.2) →
      Assoc.Ascending (overlaidMembers earlier later) ∧
        ∀ entry ∈ overlaidMembers earlier later, Ordered entry.2
  | [], _ => ⟨ascending, ordered⟩
  | (key, value) :: rest, parts => by
    have first : Ordered value := parts (key, value) (by simp)
    rw [overlaidMembers]
    refine ordered_overlaidMembers _ (ascending.insertSorted _ _ _) ?_ rest
      fun entry inside => parts entry (List.mem_cons_of_mem _ inside)
    intro entry inside
    rcases Assoc.mem_insertSorted _ _ _ entry inside with rfl | old
    · cases there : earlier.get? key with
      | none => exact first
      | some old =>
        exact Ordered.overlaid old (ordered _ (Assoc.mem_of_get? key _ old there)) value first
    · exact ordered entry old

end

theorem get?_overlaidMembers (earlier later : Assoc Setting) (distinct : later.keys.Nodup)
    (name : String) :
    (overlaidMembers earlier later : Assoc Setting).get? name =
      laid (earlier.get? name) (later.get? name) := by
  induction later generalizing earlier with
  | nil => simp [overlaidMembers]
  | cons entry rest ih =>
    obtain ⟨key, value⟩ := entry
    obtain ⟨fresh, distinct⟩ := List.nodup_cons.mp distinct
    rw [overlaidMembers, ih _ distinct, Assoc.get?_insertSorted]
    by_cases same : key = name
    · subst same
      rw [(Assoc.get?_eq_none_iff key rest).mpr fresh]
      cases earlier.get? key <;> simp [laid]
    · simp [same, Assoc.get?_cons_of_ne _ _ _ _ same]

theorem overlaid_of_not_isDictionary (earlier later : Setting) (h : later.isDictionary = false) :
    earlier.overlaid later = later := by
  cases later with
  | scalar => rfl
  | list => rfl
  | dict => cases h

theorem isDictionary_overlaid (earlier later : Setting) :
    (earlier.overlaid later).isDictionary = later.isDictionary := by
  cases later <;> rfl

theorem members_overlaid (earlier later : Setting) (h : later.isDictionary = true) :
    (earlier.overlaid later).members = overlaidMembers earlier.members later.members := by
  cases later with
  | scalar => cases h
  | list => cases h
  | dict => rfl

/-- Over what is no dictionary every setting replaces what was there. -/
theorem overlaid_of_earlier (earlier later : Setting) (ordered : Ordered later)
    (h : earlier.isDictionary = false) : earlier.overlaid later = later := by
  have bare : earlier.members = [] := by
    cases earlier with
    | scalar => rfl
    | list => rfl
    | dict => cases h
  cases ordered with
  | scalar => rfl
  | list => rfl
  | dict origin members ascending parts =>
    rw [overlaid, bare]
    congr 1
    refine Assoc.eq_of_get?_eq _ _ ?_ ascending fun name => ?_
    · exact (ordered_overlaidMembers [] List.Pairwise.nil (by simp) members parts).1
    · rw [get?_overlaidMembers [] members ascending.nodup_keys name]
      simp

/-- Along keys on whose way the later setting has dictionaries, part is laid over part. -/
theorem at?_overlaid (earlier later : Setting) (keys : List String) (ordered : Ordered later)
    (opened : later.Open keys) :
    (earlier.overlaid later).at? keys = laid (earlier.at? keys) (later.at? keys) := by
  induction keys generalizing earlier later with
  | nil => rfl
  | cons key rest ih =>
    obtain ⟨dictionary, inside⟩ := opened
    rw [at?, at?, at?, members_overlaid earlier later dictionary,
      get?_overlaidMembers _ _ ordered.ascending.nodup_keys]
    cases new : later.members.get? key with
    | none => simp
    | some part =>
      cases old : earlier.members.get? key with
      | none => simp
      | some part' => exact ih part' part (ordered.part key part new) (inside part new)

end TsWorkshop.Setting
