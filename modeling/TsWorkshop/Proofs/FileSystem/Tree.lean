import Mathlib.Data.List.Nodup
import TsWorkshop.Proofs.FileSystem.Making

/-!
Trees of files. On a disk no place has two entries, and what stands somewhere has a name and stands
in a directory (`IsTree`). Removing a place with all that is below it leaves a tree
(`IsTree.filter`), and so does making directories, whether it is refused in the end or not
(`IsTree.provideDirectory`). In a tree a directory lists its children once each
(`mem_children`, `IsTree.nodup_children`).
-/

namespace TsWorkshop

/-- What an entry can be called. -/
def IsName (name : String) : Prop := name ≠ "" ∧ '/' ∉ name.toList ∧ name ≠ "." ∧ name ≠ ".."

instance (name : String) : Decidable (IsName name) := inferInstanceAs (Decidable (_ ∧ _))

namespace IsName

variable {name : String} (named : IsName name)

include named

theorem names_eq : Path.names name = [name] := by
  obtain ⟨nonempty, plain, -⟩ := named
  unfold Path.names Path.pieces
  rw [Text.splitChars_of_not_mem '/' name.toList plain]
  simp [nonempty]

theorem isAbsolute_eq : Path.isAbsolute name = false := by
  rw [← Bool.not_eq_true, Path.isAbsolute_iff_head?]
  intro first
  exact named.2.1 (List.mem_of_mem_head? first)

theorem turn_eq (place : Place) : Path.turn place name = place ++ [name] := by
  rw [Path.turn, if_neg named.2.2.1, if_neg named.2.2.2]

theorem demandsDirectory_join (directory : Path) :
    (directory.join name).demandsDirectory = false := by
  have plain (front : List Char) : (front ++ name.toList).getLast? ≠ some '/' := by
    intro last
    have some_ : name.toList ≠ [] := by simpa using named.1
    rw [List.getLast?_append_of_ne_nil _ some_] at last
    exact named.2.1 (List.mem_of_getLast? last)
  unfold Path.join Path.demandsDirectory
  rw [named.isAbsolute_eq, if_neg (by simp)]
  split
  · rw [String.toList_append, decide_eq_false_iff_not]
    exact plain _
  · rw [String.toList_append, decide_eq_false_iff_not]
    exact plain _

theorem names_join (directory : Path) :
    (directory.join name).names = directory.names ++ [name] := by
  rw [Path.names_join directory name named.isAbsolute_eq, named.names_eq]

theorem place_join (directory : Path) :
    (directory.join name).place = directory.place ++ [name] := by
  rw [Path.place_join directory name named.isAbsolute_eq, named.names_eq, List.foldl_cons,
    List.foldl_nil, named.turn_eq]

theorem toList_join_ne_nil (directory : Path) : (directory.join name).toList ≠ [] := by
  intro empty
  have names := named.names_join directory
  unfold Path.names Path.pieces at names
  rw [empty] at names
  simp [Text.splitChars] at names

end IsName

/-- The names of a path that are neither `.` nor `..` are names of entries. -/
theorem Path.isName_of_mem_names (path : Path) (name : String) (inside : name ∈ path.names)
    (moves : name ≠ ".") (down : name ≠ "..") : IsName name := by
  obtain ⟨piece, kept, rfl⟩ := List.mem_map.mp inside
  obtain ⟨among, nonempty⟩ := List.mem_filter.mp kept
  refine ⟨?_, ?_, moves, down⟩
  · simpa using nonempty
  · rw [String.toList_ofList]
    exact path.slash_not_mem piece among

namespace FileSystem

/-- The places with entries. -/
def places (fs : FileSystem) : List Place := fs.entries.map Prod.fst

variable (fs : FileSystem)

/-- Files as they are on a disk: no place has two entries, each has a name, and each stands in a
directory. -/
structure IsTree : Prop where
  distinct : fs.places.Nodup
  named : ∀ q ∈ fs.places, ∀ name ∈ q.getLast?, IsName name
  above : ∀ q ∈ fs.places, fs.get? q.dropLast = some .directory

instance (found : Option Entry) : Decidable (found = some .directory) :=
  match found with
  | some .directory => .isTrue rfl
  | some (.file _ _) => .isFalse (by simp)
  | none => .isFalse (by simp)

instance : Decidable fs.IsTree :=
  decidable_of_iff (fs.places.Nodup ∧ (∀ q ∈ fs.places, ∀ name ∈ q.getLast?, IsName name) ∧
      ∀ q ∈ fs.places, fs.get? q.dropLast = some .directory)
    ⟨fun ⟨distinct, named, above⟩ => ⟨distinct, named, above⟩,
      fun tree => ⟨tree.distinct, tree.named, tree.above⟩⟩

/-! ### Entries -/

theorem find?_ne_none_iff (q : Place) (entries : List (Place × Entry)) :
    find? q entries ≠ none ↔ q ∈ entries.map Prod.fst := by
  induction entries with
  | nil => simp [find?]
  | cons entry rest ih =>
    obtain ⟨p, e⟩ := entry
    rw [find?, List.map_cons, List.mem_cons]
    by_cases same : p = q
    · simp [same]
    · rw [if_neg same, ih]
      simp [Ne.symm same]

theorem get?_ne_none_iff (q : Place) : fs.get? q ≠ none ↔ q = [] ∨ q ∈ fs.places := by
  unfold get?
  split
  · rename_i root
    simp [root]
  · rename_i below
    rw [find?_ne_none_iff]
    simp [below, places]

theorem get?_concat_ne_none_iff (p : Place) (name : String) :
    fs.get? (p ++ [name]) ≠ none ↔ p ++ [name] ∈ fs.places := by
  rw [get?_ne_none_iff]
  simp

/-! ### Children -/

theorem childName?_eq_some_iff (p q : Place) (name : String) :
    childName? p q = some name ↔ q = p ++ [name] := by
  unfold childName?
  constructor
  · intro found
    split at found
    · rename_i same
      obtain ⟨front, rfl⟩ := List.getLast?_eq_some_iff.mp found
      rw [List.dropLast_concat] at same
      rw [same]
    · cases found
  · rintro rfl
    simp

theorem children_eq (p : Place) :
    fs.children p = fs.places.filterMap (childName? p) := by
  rw [children, places, List.filterMap_map]
  rfl

/-- A directory lists what stands in it. -/
theorem mem_children (p : Place) (name : String) :
    name ∈ fs.children p ↔ fs.get? (p ++ [name]) ≠ none := by
  rw [children_eq, List.mem_filterMap, get?_concat_ne_none_iff]
  simp only [childName?_eq_some_iff, exists_eq_right]

/-! ### Trees -/

namespace IsTree

variable {fs} (tree : fs.IsTree)

include tree

/-- What stands somewhere stands in a directory. -/
theorem get?_parent (place : Place) (name : String) (stands : fs.get? (place ++ [name]) ≠ none) :
    fs.get? place = some .directory := by
  have parent := tree.above _ ((fs.get?_concat_ne_none_iff place name).mp stands)
  rwa [List.dropLast_concat] at parent

theorem isName (place : Place) (name : String) (stands : fs.get? (place ++ [name]) ≠ none) :
    IsName name :=
  tree.named _ ((fs.get?_concat_ne_none_iff place name).mp stands) name (by simp)

/-- Above what stands somewhere there are directories only. -/
theorem get?_above (p q : Place) (below : isBelow p q = true) (stands : fs.get? q ≠ none) :
    fs.get? p = some .directory := by
  induction q using List.reverseRecOn with
  | nil =>
    obtain ⟨above, other⟩ := (isBelow_iff _ _).mp below
    exact absurd (List.prefix_nil.mp above) other
  | append_singleton q name ih =>
    have parent := tree.get?_parent q name stands
    by_cases here : p = q
    · rw [here]
      exact parent
    · have above := (isBelow_concat p q name).mp below
      exact ih ((isBelow_iff p q).mpr ⟨above, here⟩) (by simp [parent])

theorem nodup_children (p : Place) : (fs.children p).Nodup := by
  rw [children_eq]
  apply tree.distinct.filterMap
  intro q q' name found found'
  rw [Option.mem_def, childName?_eq_some_iff] at found found'
  rw [found, found']

/-- The child of a directory through which something below it is reached. -/
theorem exists_child (p q : Place) (below : isBelow p q = true) (stands : fs.get? q ≠ none) :
    ∃ name ∈ fs.children p, p ++ [name] <+: q := by
  obtain ⟨⟨back, rfl⟩, other⟩ := (isBelow_iff _ _).mp below
  cases back with
  | nil => simp at other
  | cons name rest =>
    have inside : p ++ [name] <+: p ++ name :: rest := ⟨rest, by simp⟩
    refine ⟨name, (mem_children fs p name).mpr ?_, inside⟩
    by_cases last : p ++ [name] = p ++ name :: rest
    · rwa [last]
    · simp [tree.get?_above _ _ ((isBelow_iff _ _).mpr ⟨inside, last⟩) stands]

/-! ### What is left of a tree -/

/-- Keeping some entries, with each one the directory that it stands in, leaves a tree. -/
protected theorem filter (keep : Place → Bool) (root : keep [] = true)
    (closed : ∀ q, keep q = true → keep q.dropLast = true) :
    (FileSystem.mk (fs.entries.filter fun entry => keep entry.1)).IsTree := by
  have left : (FileSystem.mk (fs.entries.filter fun entry => keep entry.1)).places =
      fs.places.filter keep := by
    simp only [places, List.filter_map]
    rfl
  constructor
  · rw [left]
    exact tree.distinct.filter keep
  · intro q inside
    rw [left] at inside
    exact tree.named q (List.mem_of_mem_filter inside)
  · intro q inside
    rw [left, List.mem_filter] at inside
    rw [get?_filter fs keep root, if_pos (closed q inside.2)]
    exact tree.above q inside.1

protected theorem eraseBelow (p : Place) : (fs.eraseBelow p).IsTree := by
  apply tree.filter fun q => !isBelow p q
  · cases p <;> simp [isBelow]
  · intro q kept
    rw [Bool.not_eq_true', ← Bool.not_eq_true, isBelow_iff] at kept ⊢
    rintro ⟨above, other⟩
    refine kept ⟨above.trans (List.dropLast_prefix q), ?_⟩
    rintro rfl
    exact other (above.eq_of_length_le (List.dropLast_prefix p).length_le)

protected theorem erase (p : Place) (below : p ≠ []) : (fs.erase p).IsTree := by
  apply tree.filter fun q => !p.isPrefixOf q
  · cases p <;> simp_all
  · intro q kept
    rw [Bool.not_eq_true', ← Bool.not_eq_true, List.isPrefixOf_iff_prefix] at kept ⊢
    exact fun above => kept (above.trans (List.dropLast_prefix q))

/-! ### Directories made in a tree -/

protected theorem put (p : Place) (name : String) (named : IsName name)
    (parent : fs.get? p = some .directory) (vacant : fs.get? (p ++ [name]) = none) :
    (fs.put (p ++ [name]) .directory).IsTree := by
  have new : p ++ [name] ∉ fs.places := by
    intro inside
    exact (fs.get?_concat_ne_none_iff p name).mpr inside vacant
  have same : fs.put (p ++ [name]) .directory =
      { entries := (p ++ [name], .directory) :: fs.entries } := by
    rw [FileSystem.put, List.filter_eq_self.mpr]
    rintro ⟨q, e⟩ inside
    have stands : q ∈ fs.places := List.mem_map_of_mem inside
    simp only [ne_eq, decide_eq_true_eq]
    rintro rfl
    exact new stands
  have kept (q : Place) (there : fs.get? q = some .directory) :
      (fs.put (p ++ [name]) .directory).get? q = some .directory := by
    rw [get?_put fs _ q _ (by simp)]
    split <;> simp [there]
  rw [same] at kept ⊢
  constructor
  · exact List.nodup_cons.mpr ⟨new, tree.distinct⟩
  · intro q inside last ends
    rcases List.mem_cons.mp inside with rfl | old
    · obtain rfl : name = last := by simpa using ends
      exact named
    · exact tree.named q old last ends
  · intro q inside
    rcases List.mem_cons.mp inside with rfl | old
    · rw [List.dropLast_concat]
      exact kept p parent
    · exact kept _ (tree.above q old)

/-- A directory that is made stands in one that was there. -/
protected theorem makeDirectory (path : Path) {after : FileSystem}
    (h : fs.makeDirectory path = .ok after) : after.IsTree := by
  obtain ⟨p, located, h⟩ := (bind_eq_ok_iff _ _ _).mp h
  have nonempty : path.toList ≠ [] := by
    intro empty
    unfold locate at located
    rw [empty] at located
    cases located
  obtain ⟨rfl, before⟩ := (fs.locate_eq_ok_iff path nonempty p).mp located
  split at h
  · cases h
  · rename_i missing
    cases h
    rcases path.names.eq_nil_or_concat with none | ⟨front, name, names⟩
    · rw [Path.place, none] at missing
      simp [Path.placeOf] at missing
    rw [List.concat_eq_append] at names
    have parent : fs.get? (Path.placeOf front) = some .directory := by
      apply before front
      · exact ⟨[name], names.symm⟩
      · intro whole
        have length := congrArg List.length (whole.trans names)
        rw [List.length_append, List.length_singleton] at length
        omega
    have turned : path.place = Path.turn (Path.placeOf front) name := by
      rw [Path.place, names, Path.placeOf_append]
      rfl
    -- neither `.` nor `..` leads from a directory to a place where nothing is
    have moves : name ≠ "." := by
      rintro rfl
      rw [turned, Path.turn, if_pos rfl, parent] at missing
      cases missing
    have down : name ≠ ".." := by
      rintro rfl
      rw [turned, Path.turn, if_neg (by decide), if_pos rfl] at missing
      rcases (Path.placeOf front).eq_nil_or_concat with root | ⟨above, last, place⟩
      · rw [root] at missing
        simp at missing
      · rw [List.concat_eq_append] at place
        rw [place, List.dropLast_concat, tree.get?_parent above last] at missing
        · cases missing
        · rw [← place, parent]
          simp
    have named := path.isName_of_mem_names name (by simp [names]) moves down
    rw [turned, named.turn_eq] at missing ⊢
    exact tree.put _ name named parent missing

/-- However making directories ends, it leaves a tree. -/
protected theorem makeDirectoriesOf (paths : List Path) :
    (fs.makeDirectoriesOf paths).2.IsTree := by
  induction paths generalizing fs with
  | nil => exact tree
  | cons path parents ih =>
    have above := ih tree
    unfold FileSystem.makeDirectoriesOf
    split
    · exact tree
    · split
      · rename_i made
        exact tree.makeDirectory path made
      · split
        · rename_i failed
          rwa [failed] at above
        · rename_i provided
          rw [provided] at above
          split
          · rename_i made
            exact above.makeDirectory path made
          · exact above
      · exact tree

protected theorem provideDirectory (path : Path) : (fs.provideDirectory path).2.IsTree :=
  tree.makeDirectoriesOf path.ancestors

end IsTree

end FileSystem

end TsWorkshop
