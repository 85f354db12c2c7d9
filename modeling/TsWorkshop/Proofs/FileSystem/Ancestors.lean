import TsWorkshop.Proofs.FileSystem.Making

/-!
The directories above a path. The parent of a path from the root takes the steps before the last one
(`parent?_of_isAbsolute`), so the path and its ancestors take the initial parts of its steps, the
longest first (`map_steps_ancestors`), and every directory that takes such steps leads to one of
those (`exists_ancestor`). What is found below a directory depends on the steps to it only
(`isFile_join_congr`), and a file stands in the directory that is its path's parent
(`exists_directory_of_isFile`).
-/

namespace TsWorkshop

namespace Path

/-! ### Ancestors of absolute paths -/

/-- Only a path that takes no step has no parent. -/
theorem parent?_of_isAbsolute (path : Path) (absolute : path.isAbsolute = true) :
    path.steps = [] ∧ path.parent? = none ∨
      ∃ parent : Path, path.parent? = some parent ∧ parent.isAbsolute = true ∧
        ∃ last, path.steps = parent.steps ++ [last] := by
  obtain ⟨next, more, pieces⟩ := path.isAbsolute_iff.mp absolute
  obtain ⟨kept, fillers, parts, dropped, -, ends⟩ := exists_dropFillers [] (next :: more)
  have trimmed : path.trimmed = [] :: kept := by
    unfold Path.trimmed
    rw [pieces, dropped]
  have steps : path.steps = stepsOf ([] :: kept) := by
    rw [← dropped, stepsOf_dropFillers, ← pieces]
    rfl
  rcases kept.eq_nil_or_concat with rfl | ⟨front, last, rfl⟩
  · left
    refine ⟨steps, ?_⟩
    unfold parent?
    rw [trimmed]
    rfl
  · right
    rw [List.concat_eq_append] at *
    have plain : ∀ piece ∈ [] :: front, '/' ∉ piece := by
      intro piece inside
      apply path.slash_not_mem piece
      rw [pieces, parts]
      rcases List.mem_cons.mp inside with rfl | later
      · simp
      · simp [later]
    obtain ⟨parent, found, root, names⟩ :=
      path.exists_parent?_of_trimmed [] last front trimmed plain
    have above : parent.steps = stepsOf ([] :: front) := by
      rw [steps_eq, names, ← stepsOf_eq, stepsOf_dropFillers]
    refine ⟨parent, found, root.mpr rfl, String.ofList last, ?_⟩
    rw [steps, above, ← List.cons_append, stepsOf_append,
      stepsOf_singleton last (ends last (by simp))]

theorem length_steps_le (path : Path) : path.steps.length ≤ path.toList.length + 1 := by
  rw [steps_eq]
  exact (List.length_filter_le _ _).trans path.length_names_le

/-- The induction is on the fuel; each parent takes a step less, so it suffices. -/
theorem map_steps_ancestorsFrom (fuel : Nat) (path : Path) (absolute : path.isAbsolute = true)
    (enough : path.steps.length < fuel) :
    (ancestorsFrom fuel path).map steps = path.steps.inits.reverse ∧
      ∀ above ∈ ancestorsFrom fuel path, above.isAbsolute = true := by
  induction fuel generalizing path with
  | zero => omega
  | succ fuel ih =>
    unfold ancestorsFrom
    rcases path.parent?_of_isAbsolute absolute with
      ⟨none, topmost⟩ | ⟨parent, found, root, last, steps⟩
    · rw [topmost]
      simp [none, absolute]
    · rw [found]
      have shorter : parent.steps.length < fuel := by
        rw [steps, List.length_append, List.length_singleton] at enough
        omega
      obtain ⟨later, roots⟩ := ih parent root shorter
      constructor
      · rw [List.map_cons, later, steps, List.inits_append]
        simp
      · intro above inside
        rcases List.mem_cons.mp inside with rfl | further
        · exact absolute
        · exact roots above further

/-- A path and its ancestors take the initial parts of its steps, from the longest to none. -/
theorem map_steps_ancestors (path : Path) (absolute : path.isAbsolute = true) :
    path.ancestors.map steps = path.steps.inits.reverse :=
  (map_steps_ancestorsFrom _ path absolute (by have := path.length_steps_le; omega)).1

/-- A directory at a path or above it, by the steps that lead there from the root. Above a path that
goes up are also the directories that it goes up from. -/
structure IsAbove (above path : Path) : Prop where
  isAbsolute : above.isAbsolute = true
  initial : above.steps <+: path.steps

theorem isAbove_of_mem_ancestors (path above : Path) (absolute : path.isAbsolute = true)
    (inside : above ∈ path.ancestors) : above.IsAbove path := by
  constructor
  · have roots := map_steps_ancestorsFrom (path.toList.length + 2) path absolute
      (by have := path.length_steps_le; omega)
    exact roots.2 above inside
  · have steps : above.steps ∈ path.ancestors.map steps := List.mem_map_of_mem inside
    rw [path.map_steps_ancestors absolute, List.mem_reverse, List.mem_inits] at steps
    exact steps

/-- Every directory at a path or above it is one of its ancestors, but for its spelling. -/
theorem exists_ancestor (path above : Path) (absolute : path.isAbsolute = true)
    (h : above.IsAbove path) : ∃ ancestor ∈ path.ancestors, ancestor.steps = above.steps := by
  rw [← List.mem_map, path.map_steps_ancestors absolute, List.mem_reverse, List.mem_inits]
  exact h.initial

/-- Of two ancestors the one that comes first is at the other or below it. -/
theorem pairwise_ancestors (path : Path) (absolute : path.isAbsolute = true) :
    path.ancestors.Pairwise fun below above => above.steps <+: below.steps := by
  rw [← List.pairwise_map (f := steps) (R := fun below above => above <+: below),
    path.map_steps_ancestors absolute, List.pairwise_reverse]
  rw [List.pairwise_iff_getElem]
  intro i j hi hj less
  rw [List.getElem_inits, List.getElem_inits]
  exact List.take_prefix_take_left (by omega)

/-! ### Places by steps -/

theorem placeOf_filter (names : List String) :
    placeOf (names.filter (· ≠ ".")) = placeOf names := by
  unfold placeOf
  generalize ([] : Place) = start
  induction names generalizing start with
  | nil => rfl
  | cons name rest ih =>
    by_cases stays : name = "."
    · rw [List.filter_cons_of_neg (by simpa using stays), List.foldl_cons, turn, if_pos stays, ih]
    · rw [List.filter_cons_of_pos (by simpa using stays), List.foldl_cons, List.foldl_cons, ih]

theorem place_eq (path : Path) : path.place = placeOf path.steps := by
  rw [steps_eq, placeOf_filter]
  rfl

/-- Steps that never go up lead to the place that they name. -/
theorem place_of_not_up (path : Path) (down : ".." ∉ path.steps) : path.place = path.steps := by
  have kept (names : List String) (plain : ∀ name ∈ names, name ≠ "." ∧ name ≠ "..")
      (start : Place) : names.foldl turn start = start ++ names := by
    induction names generalizing start with
    | nil => simp
    | cons name rest ih =>
      obtain ⟨⟨moves, down⟩, later⟩ := List.forall_mem_cons.mp plain
      rw [List.foldl_cons, turn, if_neg moves, if_neg down, ih later, List.append_assoc,
        List.singleton_append]
  rw [place_eq, placeOf, kept path.steps _ [], List.nil_append]
  intro name inside
  refine ⟨?_, fun up => down (up ▸ inside)⟩
  rw [steps_eq] at inside
  simpa using List.of_mem_filter inside

/-- What stands at a path that never goes up, or above it, is found where its steps say. -/
theorem IsAbove.place_eq_steps {above path : Path} (h : above.IsAbove path)
    (down : ".." ∉ path.steps) : above.place = above.steps :=
  above.place_of_not_up fun up => down (h.initial.subset up)

/-- Every place above the one that a path leads to without going up is that of an ancestor. -/
theorem exists_isAbove_of_prefix (path : Path) (absolute : path.isAbsolute = true)
    (down : ".." ∉ path.steps) (place : Place) (initial : place <+: path.place) :
    ∃ above : Path, above.IsAbove path ∧ above.place = place := by
  rw [path.place_of_not_up down, ← List.mem_inits, ← List.mem_reverse,
    ← path.map_steps_ancestors absolute, List.mem_map] at initial
  obtain ⟨above, inside, rfl⟩ := initial
  have h := path.isAbove_of_mem_ancestors above absolute inside
  exact ⟨above, h, h.place_eq_steps down⟩

/-! ### Paths below a directory -/

theorem names_ne_nil (path : Path) (some_ : path ≠ "") (relative : path.isAbsolute = false) :
    path.names ≠ [] := by
  have chars : path.toList ≠ [] := by simpa using some_
  rw [← Bool.not_eq_true, isAbsolute_iff_head?] at relative
  unfold names pieces
  cases toList : path.toList with
  | nil => exact absurd toList chars
  | cons c rest =>
    rw [toList] at relative
    have other : c ≠ '/' := by simpa using relative
    unfold Text.splitChars
    rw [if_neg other]
    split <;> simp

theorem toList_join_ne_nil (base rest : Path) (nonempty : base.toList ≠ [])
    (relative : rest.isAbsolute = false) : (base.join rest).toList ≠ [] := by
  unfold join
  rw [relative, if_neg (by simp)]
  split <;> simp_all

/-- A path below a directory stands for a directory if nothing is below, else as the path does. -/
theorem demandsDirectory_join (base rest : Path) (nonempty : base.toList ≠ [])
    (relative : rest.isAbsolute = false) :
    (base.join rest).demandsDirectory = (rest == "" || rest.demandsDirectory) := by
  unfold join demandsDirectory
  rw [relative, if_neg (by simp)]
  by_cases empty : rest = ""
  · subst empty
    split
    · rename_i open_
      simpa [nonempty] using open_
    · simp
  · have chars : rest.toList ≠ [] := by simpa using empty
    have other : (rest == "") = false := by simpa using empty
    split <;>
      simp [List.getLast?_append, List.getLast?_cons, List.getLast?_eq_some_getLast chars, other]

end Path

namespace FileSystem

variable (fs : FileSystem)

/-! ### Files below a directory -/

/-- Names that stay may be left out before others. They may not at the end, where the name before
them need not be a directory's any more. -/
theorem follow_append (start : Place) (front back : List String) (more : back ≠ []) :
    fs.follow start (front ++ back) = fs.follow start (front.filter (· ≠ ".") ++ back) := by
  induction front generalizing start with
  | nil => rfl
  | cons name rest ih =>
    by_cases stays : name = "."
    · rw [List.filter_cons_of_neg (by simpa using stays), List.cons_append, follow, if_pos stays,
        ih]
    · rw [List.filter_cons_of_pos (by simpa using stays), List.cons_append, List.cons_append,
        follow, follow]
      simp only [ih, List.isEmpty_iff, List.append_eq_nil_iff, more, and_false]

/-- Two directories to which the same steps lead have the same files below them. -/
theorem isFile_join_congr (directory other rest : Path) (absolute : directory.isAbsolute = true)
    (absolute' : other.isAbsolute = true) (same : directory.steps = other.steps) :
    fs.isFile (directory.join rest) = fs.isFile (other.join rest) := by
  have nonempty := directory.toList_ne_nil_of_isAbsolute absolute
  have nonempty' := other.toList_ne_nil_of_isAbsolute absolute'
  cases relative : rest.isAbsolute with
  | true => simp only [Path.join, relative, if_true]
  | false =>
    have demands := directory.demandsDirectory_join rest nonempty relative
    have demands' := other.demandsDirectory_join rest nonempty' relative
    have located : rest ≠ "" → fs.locate (directory.join rest) = fs.locate (other.join rest) := by
      intro some_
      have more := rest.names_ne_nil some_ relative
      unfold locate
      rw [if_neg (by simpa using directory.toList_join_ne_nil rest nonempty relative),
        if_neg (by simpa using other.toList_join_ne_nil rest nonempty' relative),
        Path.names_join directory rest relative, Path.names_join other rest relative,
        fs.follow_append [] directory.names rest.names more,
        fs.follow_append [] other.names rest.names more, ← Path.steps_eq, ← Path.steps_eq, same]
    by_cases empty : rest = ""
    · rw [Bool.eq_iff_iff, fs.isFile_iff, fs.isFile_iff, demands, demands', empty]
      simp
    · rw [Bool.eq_iff_iff, fs.isFile_iff, fs.isFile_iff, demands, demands', located empty]

/-! ### The directory of a file -/

theorem standing_foldl_turn (start : Place) (names : List String) (open_ : fs.Standing start)
    (there : ∀ front, front <+: names → fs.get? (front.foldl Path.turn start) = some .directory) :
    fs.Standing (names.foldl Path.turn start) := by
  induction names generalizing start with
  | nil => exact open_
  | cons name rest ih =>
    apply ih
    · have turned := there [name] (by simp)
      rw [List.foldl_cons, List.foldl_nil, Path.turn] at turned
      rw [Path.turn]
      split at turned
      · rename_i stays
        rwa [if_pos stays]
      · rename_i moves
        rw [if_neg moves]
        split at turned
        · rename_i up
          rw [if_pos up]
          exact open_.dropLast
        · rename_i down
          rw [if_neg down]
          exact open_.concat turned
    · exact fun front initial => there (name :: front) ((List.prefix_cons_inj name).mpr initial)

/-- The last name on the way to a file is the file's own. -/
theorem exists_names_of_isFile (path : Path) (file : fs.isFile path = true) :
    ∃ front name, path.names = front ++ [name] ∧ name ≠ "." ∧
      path.place = Path.placeOf front ++ [name] := by
  obtain ⟨-, place, content, executable, located, stands⟩ := (fs.isFile_iff path).mp file
  have nonempty : path.toList ≠ [] := by
    intro empty
    unfold locate at located
    rw [empty] at located
    cases located
  obtain ⟨rfl, before⟩ := (fs.locate_eq_ok_iff path nonempty place).mp located
  rcases path.names.eq_nil_or_concat with none | ⟨front, name, names⟩
  · rw [Path.place, none] at stands
    simp [Path.placeOf] at stands
  rw [List.concat_eq_append] at names
  have above : fs.Standing (Path.placeOf front) := by
    refine fs.standing_foldl_turn [] front fs.standing_root fun further initial => ?_
    apply before further
    · rw [names]
      exact initial.trans (List.prefix_append front [name])
    · intro whole
      have length := initial.length_le
      rw [whole, names, List.length_append, List.length_singleton] at length
      omega
  have turned : path.place = Path.turn (Path.placeOf front) name := by
    rw [Path.place, names, Path.placeOf_append]
    rfl
  rw [turned, Path.turn] at stands
  rw [turned, Path.turn]
  split at stands
  · rw [above.get?] at stands
    cases stands
  · rename_i moves
    rw [if_neg moves]
    split at stands
    · rw [above.dropLast.get?] at stands
      cases stands
    · rename_i down
      rw [if_neg down]
      exact ⟨front, name, names, moves, rfl⟩

/-- The parent of a file's path leads to the directory that the file stands in. -/
theorem exists_directory_of_isFile (path : Path) (absolute : path.isAbsolute = true)
    (file : fs.isFile path = true) :
    ∃ directory : Path, path.parent? = some directory ∧ directory.isAbsolute = true ∧
      ∃ name, path.steps = directory.steps ++ [name] ∧
        path.place = directory.place ++ [name] := by
  obtain ⟨front, name, names, moves, place⟩ := fs.exists_names_of_isFile path file
  have steps : path.steps = front.filter (· ≠ ".") ++ [name] := by
    rw [Path.steps_eq, names, List.filter_append]
    simp [moves]
  rcases path.parent?_of_isAbsolute absolute with ⟨none, -⟩ | ⟨parent, found, root, last, taken⟩
  · simp [none] at steps
  · rw [steps] at taken
    obtain ⟨same, -⟩ := List.append_inj' taken rfl
    refine ⟨parent, found, root, name, ?_, ?_⟩
    · rw [steps, same]
    · rw [place, parent.place_eq, ← same, ← Path.placeOf_filter]

end FileSystem

end TsWorkshop
