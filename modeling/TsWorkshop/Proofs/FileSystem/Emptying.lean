import TsWorkshop.Proofs.FileSystem.Tree

/-!
Directories that are emptied entry by entry. Each entry is looked up from the path of the directory,
so the path must lead there until the last of them is gone. It does as long as it leads through none
of the entries that were removed (`reaches_withoutChild_iff`); from the first such entry on all that
is left is refused (`removeEntry_of_lost`). `emptyDirectory_eq` says in what order what is removed,
and `emptyDirectory_of_direct` that a path which leads through none of the entries empties its
directory.
-/

namespace TsWorkshop

namespace Path

variable (directory : Path)

/-- No part of the path leads below the place of the whole. -/
def Direct (path : Path) : Prop :=
  ∀ place ∈ path.waypoints, FileSystem.isBelow path.place place = false

/-- The names up to the first one through which the directory's own path leads. -/
def reached : List String → List String
  | [] => []
  | name :: rest =>
    if directory.place ++ [name] ∈ directory.waypoints then [name] else name :: reached rest

/-- Whether the directory's own path leads below what stands in it under a name. -/
def leadsBelow (name : String) : Bool :=
  directory.waypoints.any (FileSystem.isBelow (directory.place ++ [name]))

/-- What is gone once a directory has been rid of some names: they and what is below them, but not a
name below which the directory's own path leads. -/
def Removes (names : List String) (q : Place) : Prop :=
  ∃ name ∈ names, directory.place ++ [name] <+: q ∧
    (q = directory.place ++ [name] → directory.leadsBelow name = false)

instance (names : List String) (q : Place) : Decidable (directory.Removes names q) :=
  inferInstanceAs (Decidable (∃ name ∈ names, _))

/-! ### Paths through their own directory -/

theorem prefix_turn (place above : Place) (name : String) (h : above <+: turn place name) :
    above <+: place ∨ above = turn place name := by
  unfold turn at h ⊢
  split at h
  · exact Or.inl h
  · split at h
    · exact Or.inl (h.trans (List.dropLast_prefix place))
    · rename_i moves down
      rw [if_neg moves, if_neg down]
      exact (List.prefix_concat_iff.mp h).symm

/-- A path passes all that lies above what it passes. -/
theorem mem_waypoints_of_prefix (place above : Place) (inside : place ∈ directory.waypoints)
    (h : above <+: place) : above ∈ directory.waypoints := by
  obtain ⟨front, initial, rfl⟩ := (directory.mem_waypoints_iff place).mp inside
  clear inside
  induction front using List.reverseRecOn with
  | nil =>
    obtain rfl : above = [] := List.prefix_nil.mp h
    exact directory.placeOf_mem_waypoints [] List.nil_prefix
  | append_singleton front name ih =>
    have turned : placeOf (front ++ [name]) = turn (placeOf front) name := placeOf_append front _
    rw [turned] at h
    rcases prefix_turn _ above name h with before | rfl
    · exact ih ((List.prefix_append front [name]).trans initial) before
    · rw [← turned]
      exact directory.placeOf_mem_waypoints _ initial

theorem leadsBelow_eq_true_iff (name : String) :
    directory.leadsBelow name = true ↔
      ∃ place ∈ directory.waypoints,
        FileSystem.isBelow (directory.place ++ [name]) place = true :=
  List.any_eq_true

theorem mem_waypoints_of_leadsBelow (name : String) (below : directory.leadsBelow name = true) :
    directory.place ++ [name] ∈ directory.waypoints := by
  obtain ⟨place, inside, deeper⟩ := (directory.leadsBelow_eq_true_iff name).mp below
  exact directory.mem_waypoints_of_prefix _ _ inside ((FileSystem.isBelow_iff _ _).mp deeper).1

/-- A path leads below itself exactly through what stands there. -/
theorem direct_iff :
    directory.Direct ↔ ∀ name, directory.place ++ [name] ∉ directory.waypoints := by
  constructor
  · intro direct name inside
    have below := (FileSystem.isBelow_concat directory.place directory.place name).mpr
      (List.prefix_refl _)
    rw [direct _ inside] at below
    cases below
  · intro past place inside
    by_contra below
    rw [Bool.not_eq_false, FileSystem.isBelow_iff] at below
    obtain ⟨⟨back, rfl⟩, other⟩ := below
    cases back with
    | nil => simp at other
    | cons name rest =>
      apply past name
      exact directory.mem_waypoints_of_prefix _ _ inside ⟨rest, by simp⟩

/-- On a path without steps up no part leads below a later one. -/
theorem prefix_turns (start : Place) (names : List String) (down : ".." ∉ names) :
    start <+: names.foldl turn start := by
  induction names generalizing start with
  | nil => exact List.prefix_refl _
  | cons name rest ih =>
    rw [List.mem_cons, not_or] at down
    have onward : start <+: turn start name := by
      unfold turn
      rw [if_neg (Ne.symm down.1)]
      split
      · exact List.prefix_refl _
      · exact List.prefix_append _ _
    exact onward.trans (ih _ down.2)

/-- On a path without steps up all that is passed lies above its place. -/
theorem prefix_place_of_mem_waypoints (path : Path) (down : ".." ∉ path.names) (place : Place)
    (inside : place ∈ path.waypoints) : place <+: path.place := by
  obtain ⟨front, ⟨back, names⟩, rfl⟩ := (path.mem_waypoints_iff place).mp inside
  rw [Path.place, ← names, placeOf_append]
  exact prefix_turns _ back fun up => down (names ▸ List.mem_append_right _ up)

/-- No path without steps up leads below its place on the way there. -/
theorem direct_of_not_mem (path : Path) (down : ".." ∉ path.names) : path.Direct := by
  intro place inside
  have before := path.prefix_place_of_mem_waypoints down place inside
  by_contra below
  rw [Bool.not_eq_false, FileSystem.isBelow_iff] at below
  exact below.2 (below.1.eq_of_length_le before.length_le)

/-! ### Names that are come to -/

theorem reached_eq_self (names : List String)
    (past : ∀ name ∈ names, directory.place ++ [name] ∉ directory.waypoints) :
    directory.reached names = names := by
  induction names with
  | nil => rfl
  | cons name rest ih =>
    rw [reached, if_neg (past name (by simp)),
      ih fun other later => past other (List.mem_cons_of_mem _ later)]

/-- A name that is removed is gone, or a place below it is that the path passes. -/
theorem removes_or_cut_off (names : List String) (name : String) (inside : name ∈ names) :
    directory.Removes names (directory.place ++ [name]) ∨
      ∃ place ∈ directory.waypoints, directory.Removes names place := by
  cases below : directory.leadsBelow name with
  | true =>
    obtain ⟨place, further, deeper⟩ := (directory.leadsBelow_eq_true_iff name).mp below
    obtain ⟨above, other⟩ := (FileSystem.isBelow_iff _ _).mp deeper
    exact Or.inr ⟨place, further, name, inside, above, fun same => absurd same.symm other⟩
  | false => exact Or.inl ⟨name, inside, List.prefix_refl _, fun _ => below⟩

/-- With a name that the path leads through, a place that it passes is gone. -/
theorem exists_removed (names : List String) (name : String) (inside : name ∈ names)
    (passed : directory.place ++ [name] ∈ directory.waypoints) :
    ∃ place ∈ directory.waypoints, directory.Removes names place := by
  rcases directory.removes_or_cut_off names name inside with gone | cut
  · exact ⟨_, passed, gone⟩
  · exact cut

/-- All that is removed lies below the directory. -/
theorem Removes.isBelow {names : List String} {q : Place} (h : directory.Removes names q) :
    FileSystem.isBelow directory.place q = true := by
  obtain ⟨name, -, ⟨back, rfl⟩, -⟩ := h
  rw [FileSystem.isBelow_iff]
  simp

end Path

namespace FileSystem

variable {fs : FileSystem} {directory : Path} {name : String}

/-! ### Looking up an entry -/

/-- What stands in a directory is found exactly if the directory is. -/
theorem locate_join_eq_ok_iff (named : IsName name) (p : Place) :
    fs.locate (directory.join name) = .ok p ↔
      fs.Reaches directory ∧ p = directory.place ++ [name] := by
  rw [fs.locate_eq_ok_iff _ (named.toList_join_ne_nil directory), named.place_join,
    named.names_join, fs.reaches_iff, and_comm]
  apply and_congr_left
  rintro -
  constructor
  · intro before front initial
    apply before front (initial.trans (List.prefix_append _ _))
    intro whole
    have length := initial.length_le
    rw [whole, List.length_append, List.length_singleton] at length
    omega
  · intro before front initial proper
    exact before front ((List.prefix_concat_iff.mp initial).resolve_left proper)

/-- In a directory whose path is cut off nothing is found. -/
theorem locate_join_of_lost (named : IsName name) (lost : ¬ fs.Reaches directory)
    (clear : fs.Clear directory) : fs.locate (directory.join name) = .error .notFound := by
  cases located : fs.locate (directory.join name) with
  | ok p => exact absurd ((locate_join_eq_ok_iff named p).mp located).1 lost
  | error e =>
    unfold locate at located
    rw [if_neg (by simpa using named.toList_join_ne_nil directory), named.names_join] at located
    rcases fs.follow_eq_error [] _ e located with
      rfl | ⟨front, content, executable, initial, proper, stands⟩
    · rfl
    · have before := (List.prefix_concat_iff.mp initial).resolve_left proper
      have inside := directory.placeOf_mem_waypoints front before
      exact absurd stands (clear _ inside content executable)

theorem toList_ne_nil_of_isDirectory (path : Path) (there : fs.isDirectory path = true) :
    path.toList ≠ [] := by
  intro empty
  unfold isDirectory entry locate at there
  rw [empty] at there
  cases there

theorem reaches_of_isDirectory (path : Path) (there : fs.isDirectory path = true) :
    fs.Reaches path :=
  (fs.isDirectory_iff_reaches path (toList_ne_nil_of_isDirectory path there)).mp there

theorem isDirectory_eq_true_iff (path : Path) (nonempty : path.toList ≠ []) :
    fs.isDirectory path = true ↔
      fs.locate path = .ok path.place ∧ fs.get? path.place = some .directory := by
  rw [fs.isDirectory_iff_reaches path nonempty, fs.reaches_iff_locate path nonempty]

/-! ### Removing one entry -/

/-- The files without what stands in a directory under a name. A directory below which the path of
its parent leads is emptied and stays, as its own path then leads nowhere. -/
def withoutChild (directory : Path) (fs : FileSystem) (name : String) : FileSystem :=
  if directory.leadsBelow name then fs.eraseBelow (directory.place ++ [name])
  else fs.erase (directory.place ++ [name])

theorem get?_withoutChild (fs : FileSystem) (directory : Path) (name : String) (q : Place) :
    (fs.withoutChild directory name).get? q =
      if directory.Removes [name] q then none else fs.get? q := by
  have removes : directory.Removes [name] q ↔ directory.place ++ [name] <+: q ∧
      (q = directory.place ++ [name] → directory.leadsBelow name = false) := by
    simp [Path.Removes]
  unfold withoutChild
  cases below : directory.leadsBelow name with
  | true =>
    rw [if_pos rfl, get?_eraseBelow]
    apply if_congr _ rfl rfl
    rw [removes, below, isBelow_iff]
    simp [eq_comm]
  | false =>
    rw [if_neg (by simp), get?_erase _ _ _ (by simp)]
    apply if_congr _ rfl rfl
    simp [removes, below]

theorem IsTree.withoutChild (tree : fs.IsTree) (directory : Path) (name : String) :
    (fs.withoutChild directory name).IsTree := by
  unfold FileSystem.withoutChild
  split
  · exact tree.eraseBelow _
  · exact tree.erase _ (by simp)

/-- A path that led to its directory leads there still if it does not pass what was removed. -/
theorem reaches_withoutChild_iff (reaches : fs.Reaches directory) :
    (fs.withoutChild directory name).Reaches directory ↔
      directory.place ++ [name] ∉ directory.waypoints := by
  constructor
  · intro left passed
    obtain ⟨place, inside, gone⟩ := directory.exists_removed [name] name (by simp) passed
    have there := left place inside
    rw [get?_withoutChild, if_pos gone] at there
    cases there
  · intro past place inside
    rw [get?_withoutChild, if_neg]
    · exact reaches place inside
    · rintro ⟨other, same, above, -⟩
      obtain rfl := List.mem_singleton.mp same
      exact past (directory.mem_waypoints_of_prefix _ _ inside above)

/-- Where a path led to its directory, removing something puts no file in the way. -/
theorem Reaches.clear_of_less {after : FileSystem} (reaches : fs.Reaches directory)
    (less : ∀ q, after.get? q = fs.get? q ∨ after.get? q = none) : after.Clear directory := by
  intro place inside content executable stands
  rcases less place with same | gone
  · rw [same, reaches place inside] at stands
    cases stands
  · rw [gone] at stands
    cases stands

theorem Reaches.clear_withoutChild (reaches : fs.Reaches directory) :
    (fs.withoutChild directory name).Clear directory := by
  apply reaches.clear_of_less
  intro q
  rw [get?_withoutChild]
  split <;> simp

theorem reaches_eraseBelow_iff (reaches : fs.Reaches directory) (p : Place) :
    (fs.eraseBelow p).Reaches directory ↔
      ∀ place ∈ directory.waypoints, isBelow p place = false := by
  constructor
  · intro left place inside
    by_contra below
    have there := left place inside
    rw [get?_eraseBelow, if_pos (by simpa using below)] at there
    cases there
  · intro apart place inside
    rw [get?_eraseBelow, if_neg (by simp [apart place inside])]
    exact reaches place inside

theorem erase_eraseBelow (fs : FileSystem) (p : Place) :
    (fs.eraseBelow p).erase p = fs.erase p := by
  unfold eraseBelow erase
  rw [List.filter_filter]
  apply congrArg FileSystem.mk
  apply List.filter_congr
  rintro ⟨q, e⟩ -
  cases above : p.isPrefixOf q <;> simp [isBelow, above]

/-- No path that leads somewhere leads below a file. -/
theorem leadsBelow_eq_false_of_file (reaches : fs.Reaches directory) (content : ByteArray)
    (executable : Bool)
    (stands : fs.get? (directory.place ++ [name]) = some (.file content executable)) :
    directory.leadsBelow name = false := by
  by_contra below
  have passed := directory.mem_waypoints_of_leadsBelow name (by simpa using below)
  rw [reaches _ passed] at stands
  cases stands

theorem removeFile_child (named : IsName name) (reaches : fs.Reaches directory)
    (content : ByteArray) (executable : Bool)
    (stands : fs.get? (directory.place ++ [name]) = some (.file content executable)) :
    fs.removeFile (directory.join name) = (.ok (), fs.withoutChild directory name) := by
  have located : fs.locate (directory.join name) = .ok (directory.place ++ [name]) :=
    (locate_join_eq_ok_iff named _).mpr ⟨reaches, rfl⟩
  have apart := leadsBelow_eq_false_of_file reaches content executable stands
  rw [removeFile, located]
  simp [stands, named.demandsDirectory_join, withoutChild, apart]

theorem removeDirectory_child (named : IsName name) (reaches : fs.Reaches directory)
    (stands : fs.get? (directory.place ++ [name]) = some .directory) :
    fs.removeDirectory (directory.join name) = (.ok (), fs.withoutChild directory name) := by
  have located : fs.locate (directory.join name) = .ok (directory.place ++ [name]) :=
    (locate_join_eq_ok_iff named _).mpr ⟨reaches, rfl⟩
  have left := reaches_eraseBelow_iff reaches (directory.place ++ [name])
  rw [removeDirectory, located]
  simp only [stands]
  cases below : directory.leadsBelow name with
  | true =>
    have lost : ¬ (fs.eraseBelow (directory.place ++ [name])).Reaches directory := by
      rw [left]
      intro apart
      obtain ⟨place, inside, deeper⟩ := (directory.leadsBelow_eq_true_iff name).mp below
      rw [apart place inside] at deeper
      cases deeper
    have clear : (fs.eraseBelow (directory.place ++ [name])).Clear directory := by
      apply reaches.clear_of_less
      intro q
      rw [get?_eraseBelow]
      split <;> simp
    rw [locate_join_of_lost named lost clear, withoutChild, if_pos below]
  | false =>
    have kept : (fs.eraseBelow (directory.place ++ [name])).Reaches directory := by
      rw [left]
      intro place inside
      by_contra deeper
      rw [(directory.leadsBelow_eq_true_iff name).mpr ⟨place, inside, by simpa using deeper⟩]
        at below
      cases below
    rw [(locate_join_eq_ok_iff named _).mpr ⟨kept, rfl⟩, withoutChild, if_neg (by simp [below]),
      ← erase_eraseBelow]

/-- What stands in a directory that is found is removed. -/
theorem removeEntry_child (named : IsName name) (reaches : fs.Reaches directory)
    (stands : fs.get? (directory.place ++ [name]) ≠ none) :
    fs.removeEntry (directory.join name) = (.ok (), fs.withoutChild directory name) := by
  have isDirectory_iff : fs.isDirectory (directory.join name) = true ↔
      fs.get? (directory.place ++ [name]) = some .directory := by
    rw [isDirectory_eq_true_iff _ (named.toList_join_ne_nil directory), named.place_join,
      locate_join_eq_ok_iff named]
    simp [reaches]
  unfold removeEntry
  cases stood : fs.get? (directory.place ++ [name]) with
  | none => exact absurd stood stands
  | some entry =>
    cases entry with
    | file content executable =>
      rw [if_neg (by rw [isDirectory_iff, stood]; simp)]
      exact removeFile_child named reaches content executable stood
    | directory =>
      rw [if_pos (isDirectory_iff.mpr stood)]
      exact removeDirectory_child named reaches stood

/-- In a directory whose path is cut off an entry is refused. -/
theorem removeEntry_of_lost (named : IsName name) (lost : ¬ fs.Reaches directory)
    (clear : fs.Clear directory) :
    fs.removeEntry (directory.join name) = (.error .notFound, fs) := by
  have missing := locate_join_of_lost named lost clear
  have other : fs.isDirectory (directory.join name) = false := by
    rw [← Bool.not_eq_true, isDirectory_eq_true_iff _ (named.toList_join_ne_nil directory), missing]
    simp
  rw [removeEntry, if_neg (by simp [other]), removeFile, missing]

/-! ### Removing all entries -/

theorem removeEntries_of_ok {after : FileSystem} {rest : List String}
    (h : fs.removeEntry (directory.join name) = (.ok (), after)) :
    fs.removeEntries directory (name :: rest) = after.removeEntries directory rest := by
  rw [removeEntries, h]
  rfl

theorem removeEntries_of_error {after : FileSystem} {rest : List String} {e : IoError}
    (h : fs.removeEntry (directory.join name) = (.error e, after)) :
    fs.removeEntries directory (name :: rest) = (.error e, after) := by
  rw [removeEntries, h]
  rfl

/-- The entries are removed in order up to the first one that the path leads through, and if there
are more the next one is refused. -/
theorem removeEntries_eq (names : List String) (reaches : fs.Reaches directory)
    (distinct : names.Nodup) (named : ∀ name ∈ names, IsName name)
    (stand : ∀ name ∈ names, fs.get? (directory.place ++ [name]) ≠ none) :
    fs.removeEntries directory names =
      (if directory.reached names = names then .ok () else .error .notFound,
        (directory.reached names).foldl (withoutChild directory) fs) := by
  induction names generalizing fs with
  | nil => rfl
  | cons name rest ih =>
    rw [List.nodup_cons] at distinct
    rw [removeEntries_of_ok
      (removeEntry_child (named name (by simp)) reaches (stand name (by simp)))]
    unfold Path.reached
    split
    · rename_i passed
      have lost := (reaches_withoutChild_iff reaches).not.mpr (not_not_intro passed)
      cases rest with
      | nil => simp [removeEntries]
      | cons next rest =>
        rw [removeEntries_of_error
          (removeEntry_of_lost (named next (by simp)) lost reaches.clear_withoutChild)]
        simp
    · rename_i past
      rw [ih ((reaches_withoutChild_iff reaches).mpr past) distinct.2
        (fun other later => named other (List.mem_cons_of_mem _ later)), List.foldl_cons]
      · simp
      · intro other later
        rw [get?_withoutChild, if_neg]
        · exact stand other (List.mem_cons_of_mem _ later)
        · rintro ⟨removed, here, above, -⟩
          rw [List.mem_singleton] at here
          have same : removed = other := by simpa using above.eq_of_length (by simp)
          exact distinct.1 (here ▸ same ▸ later)

theorem get?_foldl_withoutChild (names : List String) (q : Place) :
    (names.foldl (withoutChild directory) fs).get? q =
      if directory.Removes names q then none else fs.get? q := by
  induction names generalizing fs with
  | nil => simp [Path.Removes]
  | cons name rest ih =>
    have parted : directory.Removes (name :: rest) q ↔
        directory.Removes rest q ∨ directory.Removes [name] q := by
      simp only [Path.Removes, List.exists_mem_cons_iff, List.not_mem_nil, false_and, exists_false,
        or_false]
      exact or_comm
    rw [List.foldl_cons, ih, get?_withoutChild]
    by_cases later : directory.Removes rest q
    · rw [if_pos later, if_pos (parted.mpr (Or.inl later))]
    · simp only [later, if_false, parted, false_or]

theorem IsTree.foldl_withoutChild (tree : fs.IsTree) (directory : Path) (names : List String) :
    (names.foldl (FileSystem.withoutChild directory) fs).IsTree := by
  induction names generalizing fs with
  | nil => exact tree
  | cons name rest ih => exact ih (tree.withoutChild directory name)

/-- A directory that is found is rid of what it lists, up to the first entry that its own path leads
through. It is refused if there are more. -/
theorem emptyDirectory_eq (tree : fs.IsTree) (there : fs.isDirectory directory = true) :
    let names := fs.children directory.place
    fs.emptyDirectory directory =
      (if directory.reached names = names then .ok () else .error .notFound,
        (directory.reached names).foldl (withoutChild directory) fs) := by
  intro names
  have nonempty := toList_ne_nil_of_isDirectory directory there
  have reaches := reaches_of_isDirectory directory there
  obtain ⟨located, stands⟩ := (fs.reaches_iff_locate directory nonempty).mp reaches
  rw [emptyDirectory, located]
  simp only [stands]
  have stand (name : String) (inside : name ∈ names) :
      fs.get? (directory.place ++ [name]) ≠ none :=
    (mem_children fs _ name).mp inside
  exact removeEntries_eq names reaches (tree.nodup_children _)
    (fun name inside => tree.isName _ name (stand name inside)) stand

theorem withoutChild_of_direct (direct : directory.Direct) (fs : FileSystem) (name : String) :
    fs.withoutChild directory name = fs.erase (directory.place ++ [name]) := by
  unfold withoutChild
  apply if_neg
  intro below
  exact directory.direct_iff.mp direct name (directory.mem_waypoints_of_leadsBelow name below)

/-- What is left once several places are erased. -/
theorem foldl_erase (p : Place) (names : List String) :
    names.foldl (fun fs name => fs.erase (p ++ [name])) fs =
      { entries := fs.entries.filter fun (q, _) =>
          names.all fun name => !(p ++ [name]).isPrefixOf q } := by
  induction names generalizing fs with
  | nil => simp
  | cons name rest ih =>
    rw [List.foldl_cons, ih, erase, List.filter_filter]
    apply congrArg FileSystem.mk
    apply List.filter_congr
    rintro ⟨q, e⟩ -
    dsimp only
    rw [List.all_cons, Bool.and_comm]

/-- Without its children a place has nothing below it. -/
theorem IsTree.foldl_erase_children (tree : fs.IsTree) (p : Place) :
    (fs.children p).foldl (fun fs name => fs.erase (p ++ [name])) fs = fs.eraseBelow p := by
  rw [foldl_erase, FileSystem.eraseBelow]
  apply congrArg FileSystem.mk
  apply List.filter_congr
  rintro ⟨q, e⟩ inside
  have stands : fs.get? q ≠ none :=
    (fs.get?_ne_none_iff q).mpr (Or.inr (List.mem_map_of_mem inside))
  rw [Bool.eq_iff_iff, List.all_eq_true, Bool.not_eq_true', ← Bool.not_eq_true]
  constructor
  · intro apart below
    obtain ⟨name, child, above⟩ := tree.exists_child p q below stands
    have other := apart name child
    rw [Bool.not_eq_true', ← Bool.not_eq_true, List.isPrefixOf_iff_prefix] at other
    exact other above
  · intro apart name _
    rw [Bool.not_eq_true', ← Bool.not_eq_true, List.isPrefixOf_iff_prefix]
    rintro ⟨back, rfl⟩
    apply apart
    rw [isBelow_iff]
    simp

theorem get?_emptyDirectory (tree : fs.IsTree) (there : fs.isDirectory directory = true)
    (q : Place) :
    (fs.emptyDirectory directory).2.get? q =
      if directory.Removes (directory.reached (fs.children directory.place)) q then none
      else fs.get? q := by
  rw [emptyDirectory_eq tree there]
  exact get?_foldl_withoutChild _ q

theorem IsTree.emptyDirectory (tree : fs.IsTree) (there : fs.isDirectory directory = true) :
    (fs.emptyDirectory directory).2.IsTree := by
  rw [emptyDirectory_eq tree there]
  exact tree.foldl_withoutChild directory _

/-- Emptying a directory changes nothing exactly if there is nothing in it. -/
theorem emptyDirectory_eq_self_iff (tree : fs.IsTree) (there : fs.isDirectory directory = true) :
    fs.emptyDirectory directory = (.ok (), fs) ↔ fs.children directory.place = [] := by
  constructor
  · intro same
    cases names : fs.children directory.place with
    | nil => rfl
    | cons name rest =>
      have stands : fs.get? (directory.place ++ [name]) ≠ none := by
        rw [← mem_children, names]
        simp
      have come : name ∈ directory.reached (fs.children directory.place) := by
        rw [names, Path.reached]
        split <;> simp
      have kept (q : Place) (gone : directory.Removes
          (directory.reached (fs.children directory.place)) q) : fs.get? q = none := by
        have left := get?_emptyDirectory tree there q
        rwa [same, if_pos gone] at left
      rcases directory.removes_or_cut_off _ name come with gone | ⟨place, further, gone⟩
      · exact absurd (kept _ gone) stands
      · have left := kept place gone
        rw [reaches_of_isDirectory directory there place further] at left
        cases left
  · intro none
    rw [emptyDirectory_eq tree there, none]
    rfl

/-- A directory is emptied if its own path leads through none of its entries. -/
theorem emptyDirectory_of_direct (tree : fs.IsTree) (there : fs.isDirectory directory = true)
    (direct : directory.Direct) :
    fs.emptyDirectory directory = (.ok (), fs.eraseBelow directory.place) := by
  have all := directory.reached_eq_self (fs.children directory.place) fun name _ =>
    directory.direct_iff.mp direct name
  have step : withoutChild directory = fun fs name => fs.erase (directory.place ++ [name]) :=
    funext₂ (withoutChild_of_direct direct)
  rw [emptyDirectory_eq tree there, all, if_pos rfl, step, tree.foldl_erase_children]

end FileSystem

end TsWorkshop
