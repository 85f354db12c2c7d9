import Mathlib.Data.List.Induction
import Mathlib.Data.List.Nodup
import Mathlib.Data.String.Basic
import TsWorkshop.Assoc

/-!
Dictionaries through their lookups. `Assoc.get?` is the view: every operation is described by what
it does to lookups and to the list of keys. Merging folds a repeated name into its first place, with
its last value (`folded_merged`). A list in increasing order of keys is determined by its lookups
(`eq_of_get?_eq`), so equalities between ordered lists are shown key by key.
-/

namespace TsWorkshop.Assoc

variable {α β : Type}

/-- The keys in order. -/
def keys (entries : Assoc α) : List String := entries.map Prod.fst

/-- The keys stand in strictly increasing order. -/
def Ascending (entries : Assoc α) : Prop := entries.Pairwise fun a b => a.1 < b.1

/-! ### Keys -/

@[simp] theorem keys_nil : keys ([] : Assoc α) = [] := rfl

@[simp] theorem keys_cons (key : String) (value : α) (rest : Assoc α) :
    keys ((key, value) :: rest) = key :: keys rest := rfl

@[simp] theorem keys_append (left right : Assoc α) :
    keys (left ++ right) = keys left ++ keys right := List.map_append

@[simp] theorem keys_reverse (entries : Assoc α) : keys entries.reverse = (keys entries).reverse :=
  List.map_reverse

theorem mem_keys_of_mem (entries : Assoc α) (key : String) (value : α)
    (h : (key, value) ∈ entries) : key ∈ keys entries :=
  List.mem_map_of_mem h

theorem Ascending.nodup_keys (entries : Assoc α) (h : Ascending entries) :
    (keys entries).Nodup :=
  List.Pairwise.map _ (fun _ _ less => less.ne) h

theorem count_eq_count_keys (name : String) (entries : Assoc α) :
    count name entries = (keys entries).count name := by
  simp [count, keys, List.count, List.countP_map, Function.comp_def,
    ← beq_eq_decide]

/-! ### Lookups -/

@[simp] theorem get?_nil (name : String) : get? name ([] : Assoc α) = none := rfl

theorem get?_cons (name key : String) (value : α) (rest : Assoc α) :
    get? name ((key, value) :: rest) = if key = name then some value else get? name rest := rfl

@[simp] theorem get?_cons_self (name : String) (value : α) (rest : Assoc α) :
    get? name ((name, value) :: rest) = some value := by
  simp [get?_cons]

theorem get?_cons_of_ne (name key : String) (value : α) (rest : Assoc α) (h : key ≠ name) :
    get? name ((key, value) :: rest) = get? name rest := by
  simp [get?_cons, h]

theorem get?_eq_none_iff (name : String) (entries : Assoc α) :
    get? name entries = none ↔ name ∉ keys entries := by
  induction entries with
  | nil => simp
  | cons entry rest ih =>
    obtain ⟨key, value⟩ := entry
    by_cases h : key = name
    · simp [h]
    · simp [get?_cons_of_ne _ _ _ _ h, ih, Ne.symm h]

theorem mem_of_get? (name : String) (entries : Assoc α) (value : α)
    (h : get? name entries = some value) : (name, value) ∈ entries := by
  induction entries with
  | nil => simp at h
  | cons entry rest ih =>
    obtain ⟨key, first⟩ := entry
    by_cases same : key = name
    · subst same
      simp only [get?_cons_self, Option.some.injEq] at h
      simp [h]
    · rw [get?_cons_of_ne _ _ _ _ same] at h
      exact List.mem_cons_of_mem _ (ih h)

theorem get?_of_mem (entries : Assoc α) (unique : (keys entries).Nodup) (name : String) (value : α)
    (h : (name, value) ∈ entries) : get? name entries = some value := by
  induction entries with
  | nil => simp at h
  | cons entry rest ih =>
    obtain ⟨key, first⟩ := entry
    simp only [keys_cons, List.nodup_cons] at unique
    rcases List.mem_cons.mp h with same | later
    · obtain ⟨rfl, rfl⟩ := Prod.mk.inj same
      simp
    · have different : key ≠ name := by
        rintro rfl
        exact unique.1 (mem_keys_of_mem _ _ _ later)
      rw [get?_cons_of_ne _ _ _ _ different]
      exact ih unique.2 later

/-- Lookups tell which keys there are. -/
theorem mem_keys_iff_of_get?_eq (left right : Assoc α)
    (same : ∀ name, get? name left = get? name right) (name : String) :
    name ∈ keys left ↔ name ∈ keys right := by
  have absent : name ∉ keys left ↔ name ∉ keys right := by
    rw [← get?_eq_none_iff, same, get?_eq_none_iff]
  exact not_iff_not.mp absent

/-- Without repeated keys the entries are those that lookups find. -/
theorem mem_iff_get? (entries : Assoc α) (unique : (keys entries).Nodup) (name : String)
    (value : α) : (name, value) ∈ entries ↔ get? name entries = some value :=
  ⟨get?_of_mem entries unique name value, mem_of_get? name entries value⟩

/-- Without repeated keys a lookup finds the same in any order of entries. -/
theorem get?_perm (name : String) {left right : Assoc α} (order : left.Perm right)
    (unique : (keys left).Nodup) : get? name right = get? name left := by
  cases found : get? name left with
  | none =>
    have absent := (get?_eq_none_iff name left).mp found
    exact (get?_eq_none_iff name right).mpr fun there =>
      absent ((order.map Prod.fst).mem_iff.mpr there)
  | some value =>
    have member := order.mem_iff.mp (mem_of_get? name left value found)
    exact get?_of_mem right ((order.map Prod.fst).nodup_iff.mp unique) name value member

theorem get?_append (name : String) (left right : Assoc α) :
    get? name (left ++ right) = (get? name left).or (get? name right) := by
  induction left with
  | nil => simp
  | cons entry rest ih =>
    obtain ⟨key, value⟩ := entry
    by_cases h : key = name
    · simp [h]
    · simp [get?_cons_of_ne _ _ _ _ h, ih]

/-- Dropping keys hides them from lookups and changes no other lookup. -/
theorem get?_filter (keep : String → Bool) (name : String) (entries : Assoc α) :
    get? name (entries.filter fun entry => keep entry.1) =
      if keep name then get? name entries else none := by
  induction entries with
  | nil => simp
  | cons entry rest ih =>
    obtain ⟨key, value⟩ := entry
    by_cases same : key = name
    · subst same
      by_cases kept : keep key <;> simp [kept, ih]
    · by_cases kept : keep key <;> simp [kept, ih, get?_cons_of_ne _ _ _ _ same]

theorem get?_map (name : String) (f : α → β) (entries : Assoc α) :
    get? name (entries.map fun entry => (entry.1, f entry.2)) = (get? name entries).map f := by
  induction entries with
  | nil => rfl
  | cons entry rest ih =>
    obtain ⟨key, value⟩ := entry
    by_cases h : key = name
    · simp [h]
    · simp [get?_cons_of_ne _ _ _ _ h, ih]

/-! ### Setting a value in its place -/

theorem get?_put (name other : String) (value : α) (entries : Assoc α) :
    get? other (put name value entries) =
      if name = other then some value else get? other entries := by
  induction entries with
  | nil => simp [put, get?_cons]
  | cons entry rest ih =>
    obtain ⟨key, old⟩ := entry
    by_cases h : key = name
    · subst h
      by_cases same : key = other <;> simp [put, get?_cons, same]
    · by_cases same : key = other
      · subst same
        simp [put, h, Ne.symm h]
      · simp [put, h, get?_cons_of_ne _ _ _ _ same, ih]

/-- Setting the value of a name that is there moves no key. -/
theorem keys_put (name : String) (value : α) (entries : Assoc α)
    (h : name ∈ keys entries) : keys (put name value entries) = keys entries := by
  induction entries with
  | nil => simp at h
  | cons entry rest ih =>
    obtain ⟨key, old⟩ := entry
    by_cases same : key = name
    · simp [put, same]
    · have later : name ∈ keys rest := by simpa [Ne.symm same] using h
      simp [put, same, ih later]

/-- Setting the value that is there changes nothing. -/
theorem put_of_get? (name : String) (value : α) (entries : Assoc α)
    (h : get? name entries = some value) : put name value entries = entries := by
  induction entries with
  | nil => simp at h
  | cons entry rest ih =>
    obtain ⟨key, old⟩ := entry
    by_cases same : key = name
    · subst same
      simp only [get?_cons_self, Option.some.injEq] at h
      simp [put, h]
    · rw [get?_cons_of_ne _ _ _ _ same] at h
      simp [put, same, ih h]

theorem put_of_not_mem (name : String) (value : α) (entries : Assoc α)
    (h : name ∉ keys entries) : put name value entries = entries ++ [(name, value)] := by
  induction entries with
  | nil => rfl
  | cons entry rest ih =>
    obtain ⟨key, old⟩ := entry
    simp only [keys_cons, List.mem_cons, not_or] at h
    simp [put, Ne.symm h.1, ih h.2]

theorem nodup_keys_put (name : String) (value : α) (entries : Assoc α)
    (unique : (keys entries).Nodup) : (keys (put name value entries)).Nodup := by
  by_cases h : name ∈ keys entries
  · rwa [keys_put _ _ _ h]
  · rw [put_of_not_mem _ _ _ h, keys_append]
    refine List.nodup_append.mpr ⟨unique, by simp, ?_⟩
    rintro key member other added rfl
    obtain rfl : key = name := by simpa using added
    exact h member

/-- Entries without a repeated key are already merged. -/
theorem merged_of_nodup (entries : Assoc α) (unique : (keys entries).Nodup) :
    merged entries = entries := by
  have folded : ∀ (rest done : Assoc α), (keys (done ++ rest)).Nodup →
      rest.foldl (fun acc (key, value) => put key value acc) done = done ++ rest := by
    intro rest
    induction rest with
    | nil => simp
    | cons entry rest ih =>
      intro done unique
      obtain ⟨key, value⟩ := entry
      have fresh : key ∉ keys done := by
        simp only [keys_append, keys_cons, List.nodup_append, List.mem_cons] at unique
        exact fun here => unique.2.2 key here key (Or.inl rfl) rfl
      simp only [List.foldl_cons]
      rw [put_of_not_mem _ _ _ fresh, ih _ (by simpa using unique)]
      simp
  simpa [merged] using folded entries [] (by simpa using unique)

/-! ### Repeated names folded -/

/-- `folded` has each name of `entries` once, in the order in which the names first occur, with the
last of its values. -/
structure Folded (entries folded : Assoc α) : Prop where
  once : (keys folded).Nodup
  names : ∀ name, name ∈ keys folded ↔ name ∈ keys entries
  order : (keys folded).Pairwise fun a b => (keys entries).idxOf a < (keys entries).idxOf b
  last : ∀ name, get? name folded = get? name entries.reverse

theorem merged_concat (entries : Assoc α) (name : String) (value : α) :
    merged (entries ++ [(name, value)]) = put name value (merged entries) := by
  rw [merged, List.foldl_append]
  rfl

/-- One more entry sets the value of its name: in its place, or behind all others. -/
theorem Folded.put (entries folded : Assoc α) (h : Folded entries folded) (name : String)
    (value : α) : Folded (entries ++ [(name, value)]) (Assoc.put name value folded) := by
  have earlier : ∀ key ∈ keys folded,
      (keys (entries ++ [(name, value)])).idxOf key = (keys entries).idxOf key := by
    intro key inside
    rw [keys_append, List.idxOf_append_of_mem ((h.names key).mp inside)]
  have kept : (keys folded).Pairwise fun a b =>
      (keys (entries ++ [(name, value)])).idxOf a < (keys (entries ++ [(name, value)])).idxOf b :=
    h.order.imp_of_mem fun insideA insideB less => by
      rwa [earlier _ insideA, earlier _ insideB]
  have last : ∀ key, get? key (Assoc.put name value folded) =
      get? key (entries ++ [(name, value)]).reverse := by
    intro key
    rw [get?_put, h.last, List.reverse_append, List.reverse_singleton, List.singleton_append,
      get?_cons]
  refine ⟨nodup_keys_put name value folded h.once, fun key => ?_, ?_, last⟩
  · rw [mem_keys_iff_of_get?_eq _ _ last, keys_reverse, List.mem_reverse]
  · by_cases known : name ∈ keys folded
    · rwa [keys_put name value folded known]
    · have fresh : name ∉ keys entries := fun inside => known ((h.names name).mpr inside)
      rw [put_of_not_mem name value folded known, keys_append folded, List.pairwise_append]
      refine ⟨kept, List.pairwise_singleton _ _, fun key inside other isName => ?_⟩
      rw [List.mem_singleton.mp isName, earlier key inside, keys_append,
        List.idxOf_append_of_notMem fresh]
      have := List.idxOf_lt_length_of_mem ((h.names key).mp inside)
      omega

/-- Merging entries folds the names that are repeated. -/
theorem folded_merged (entries : Assoc α) : Folded entries (merged entries) := by
  induction entries using List.reverseRecOn with
  | nil => exact ⟨List.nodup_nil, fun _ => Iff.rfl, List.Pairwise.nil, fun _ => rfl⟩
  | append_singleton entries entry ih =>
    rw [merged_concat]
    exact ih.put entries _ entry.1 entry.2

/-- Merging leaves each key once, and brings in none. -/
theorem keys_merged (entries : Assoc α) :
    (keys (merged entries)).Nodup ∧ ∀ key ∈ keys (merged entries), key ∈ keys entries :=
  have folded := folded_merged entries
  ⟨folded.once, fun key => (folded.names key).mp⟩

theorem Folded.unique (entries left right : Assoc α) (hl : Folded entries left)
    (hr : Folded entries right) : left = right := by
  have same : left.Perm right := by
    refine (List.perm_ext_iff_of_nodup hl.once.of_map hr.once.of_map).mpr fun ⟨name, value⟩ => ?_
    rw [mem_iff_get? left hl.once, mem_iff_get? right hr.once, hl.last, hr.last]
  have ordered : ∀ folded, Folded entries folded →
      folded.Pairwise fun a b => (keys entries).idxOf a.1 < (keys entries).idxOf b.1 :=
    fun _ h => (List.pairwise_map (f := Prod.fst)).mp h.order
  exact same.eq_of_pairwise (fun _ _ _ _ less more => absurd less more.asymm)
    (ordered left hl) (ordered right hr)

theorem put_map (f : α → β) (name : String) (value : α) (entries : Assoc α) :
    put name (f value) (entries.map fun entry => (entry.1, f entry.2)) =
      (put name value entries).map fun entry => (entry.1, f entry.2) := by
  induction entries with
  | nil => rfl
  | cons entry rest ih =>
    obtain ⟨key, old⟩ := entry
    by_cases same : key = name
    · simp [put, same]
    · simp [put, same, ih]

/-- Names are folded alike whatever their values are. -/
theorem merged_map (f : α → β) (entries : Assoc α) :
    merged (entries.map fun entry => (entry.1, f entry.2)) =
      (merged entries).map fun entry => (entry.1, f entry.2) := by
  induction entries using List.reverseRecOn with
  | nil => rfl
  | append_singleton entries entry ih =>
    rw [List.map_append, List.map_singleton, merged_concat, merged_concat, ih, put_map]

/-! ### Increasing order -/

theorem mem_insertSorted (name : String) (value : α) (entries : Assoc α) (entry : String × α)
    (h : entry ∈ insertSorted name value entries) : entry = (name, value) ∨ entry ∈ entries := by
  induction entries with
  | nil => simpa [insertSorted] using h
  | cons first rest ih =>
    obtain ⟨key, old⟩ := first
    by_cases before : name < key
    · simpa [insertSorted, before] using h
    · by_cases same : key = name
      · subst same
        rw [insertSorted, if_neg before, if_pos rfl, List.mem_cons] at h
        exact h.imp_right (List.mem_cons_of_mem _)
      · rw [insertSorted, if_neg before, if_neg same, List.mem_cons] at h
        rcases h with rfl | later
        · exact Or.inr (by simp)
        · exact (ih later).imp_right (List.mem_cons_of_mem _)

theorem get?_insertSorted (name other : String) (value : α) (entries : Assoc α) :
    get? other (insertSorted name value entries) =
      if name = other then some value else get? other entries := by
  induction entries with
  | nil => simp [insertSorted, get?_cons]
  | cons entry rest ih =>
    obtain ⟨key, old⟩ := entry
    by_cases before : name < key
    · simp [insertSorted, before, get?_cons]
    · by_cases same : key = name
      · subst same
        by_cases here : key = other <;> simp [insertSorted, get?_cons, here]
      · by_cases here : key = other
        · subst here
          simp [insertSorted, before, same, Ne.symm same]
        · simp [insertSorted, before, same, get?_cons_of_ne _ _ _ _ here, ih]

theorem Ascending.insertSorted (name : String) (value : α) (entries : Assoc α)
    (h : Ascending entries) : Ascending (Assoc.insertSorted name value entries) := by
  induction entries with
  | nil => simp [Assoc.insertSorted, Ascending]
  | cons entry rest ih =>
    obtain ⟨key, old⟩ := entry
    obtain ⟨least, ordered⟩ := List.pairwise_cons.mp h
    by_cases before : name < key
    · simp only [Assoc.insertSorted, before, if_true]
      refine List.pairwise_cons.mpr ⟨?_, h⟩
      intro later member
      rcases List.mem_cons.mp member with rfl | member
      · exact before
      · exact before.trans (least later member)
    · by_cases same : key = name
      · subst same
        simpa [Assoc.insertSorted, Ascending] using h
      · simp only [Assoc.insertSorted, before, same, if_false]
        refine List.pairwise_cons.mpr ⟨?_, ih ordered⟩
        intro later member
        rcases mem_insertSorted name value rest later member with rfl | member
        · exact lt_of_le_of_ne (not_lt.mp before) same
        · exact least later member

theorem ascending_sorted (entries : Assoc α) : Ascending (sorted entries) := by
  have folded : ∀ rest done : Assoc α, Ascending done →
      Ascending (rest.foldl (fun acc (key, value) => Assoc.insertSorted key value acc) done) := by
    intro rest
    induction rest with
    | nil => exact fun _ ordered => ordered
    | cons entry rest ih => exact fun done ordered => ih _ (ordered.insertSorted entry.1 entry.2)
  exact folded entries [] List.Pairwise.nil

theorem mem_of_mem_sorted (entries : Assoc α) (entry : String × α) (h : entry ∈ sorted entries) :
    entry ∈ entries := by
  have folded : ∀ rest done : Assoc α,
      entry ∈ rest.foldl (fun acc (key, value) => Assoc.insertSorted key value acc) done →
        entry ∈ rest ∨ entry ∈ done := by
    intro rest
    induction rest with
    | nil => exact fun _ member => Or.inr member
    | cons first rest ih =>
      intro done member
      rcases ih _ member with later | here
      · exact Or.inl (List.mem_cons_of_mem _ later)
      · rcases mem_insertSorted first.1 first.2 done entry here with rfl | here
        · exact Or.inl (by simp)
        · exact Or.inr here
  simpa using folded entries [] h

/-- In sorted entries the last value of a key is found. -/
theorem get?_sorted_eq_reverse (name : String) (entries : Assoc α) :
    get? name (sorted entries) = get? name entries.reverse := by
  have folded : ∀ rest done : Assoc α,
      get? name (rest.foldl (fun acc (key, value) => Assoc.insertSorted key value acc) done) =
        (get? name rest.reverse).or (get? name done) := by
    intro rest
    induction rest with
    | nil => simp
    | cons entry rest ih =>
      intro done
      obtain ⟨key, value⟩ := entry
      rw [List.foldl_cons, ih, get?_insertSorted, List.reverse_cons, get?_append, Option.or_assoc]
      by_cases same : key = name <;> simp [same, get?_cons]
  simpa [sorted] using folded entries []

/-- Sorting entries without a repeated key changes no lookup. -/
theorem get?_sorted (name : String) (entries : Assoc α) (unique : (keys entries).Nodup) :
    get? name (sorted entries) = get? name entries := by
  rw [get?_sorted_eq_reverse, get?_perm name entries.reverse_perm.symm unique]

/-- A list in increasing order of keys is determined by its lookups. -/
theorem eq_of_get?_eq (left right : Assoc α) (hl : Ascending left) (hr : Ascending right)
    (same : ∀ name, get? name left = get? name right) : left = right := by
  induction left generalizing right with
  | nil =>
    cases right with
    | nil => rfl
    | cons entry rest =>
      have missing := same entry.1
      rw [get?_of_mem _ hr.nodup_keys entry.1 entry.2 (by simp)] at missing
      cases missing
  | cons entry rest ih =>
    cases right with
    | nil =>
      have missing := same entry.1
      rw [get?_of_mem _ hl.nodup_keys entry.1 entry.2 (by simp)] at missing
      cases missing
    | cons other others =>
      obtain ⟨key, value⟩ := entry
      obtain ⟨key', value'⟩ := other
      obtain ⟨least, ordered⟩ := List.pairwise_cons.mp hl
      obtain ⟨least', ordered'⟩ := List.pairwise_cons.mp hr
      -- the smaller of the two first keys would be missing from the other list
      have heads : key = key' := by
        by_contra different
        have inRight := mem_of_get? key _ value (by rw [← same]; simp)
        have inLeft := mem_of_get? key' _ value' (by rw [same]; simp)
        have below := least' _ ((List.mem_cons.mp inRight).resolve_left (by simp [different]))
        have above := least _ ((List.mem_cons.mp inLeft).resolve_left (by simp [Ne.symm different]))
        exact lt_asymm below above
      subst heads
      have values : value = value' := by simpa using same key
      subst values
      congr 1
      refine ih others ordered ordered' fun name => ?_
      by_cases here : key = name
      · subst here
        have absent := (List.nodup_cons.mp hl.nodup_keys).1
        have absent' := (List.nodup_cons.mp hr.nodup_keys).1
        rw [(get?_eq_none_iff _ _).mpr absent, (get?_eq_none_iff _ _).mpr absent']
      · simpa [get?_cons_of_ne _ _ _ _ here] using same name

/-! ### Entries that sort alike -/

theorem sorted_eq_iff (left right : Assoc α) :
    sorted left = sorted right ↔ ∀ name, get? name left.reverse = get? name right.reverse := by
  constructor
  · intro same name
    rw [← get?_sorted_eq_reverse, same, get?_sorted_eq_reverse]
  · intro same
    refine eq_of_get?_eq _ _ (ascending_sorted left) (ascending_sorted right) fun name => ?_
    rw [get?_sorted_eq_reverse, same, get?_sorted_eq_reverse]

/-- Without repeated keys entries in another order sort alike. -/
theorem sorted_perm {left right : Assoc α} (order : left.Perm right)
    (unique : (keys left).Nodup) : sorted left = sorted right := by
  refine eq_of_get?_eq _ _ (ascending_sorted left) (ascending_sorted right) fun name => ?_
  rw [get?_sorted name left unique, get?_sorted name right
    ((order.map Prod.fst).nodup_iff.mp unique), get?_perm name order unique]

/-- Behind the same entries, entries that sort alike sort alike. -/
theorem sorted_append_congr (front left right : Assoc α) (same : sorted left = sorted right) :
    sorted (front ++ left) = sorted (front ++ right) := by
  rw [sorted_eq_iff] at same ⊢
  intro name
  rw [List.reverse_append, List.reverse_append, get?_append, get?_append, same]

end TsWorkshop.Assoc
