import TsWorkshop.Proofs.FileSystem.Path

/-!
The components of paths that are put together. A text without slashes behind a path belongs to the
last piece of the path (`pieces_append`). The components of a path in a working directory are those
that count as steps, and joining paths puts their steps one behind the other (`steps_join`); the
parent of a path has the steps before the last one (`exists_parent?`).
-/

namespace TsWorkshop

namespace Text

/-- What has no separator and stands behind a text belongs to the last piece of the text. -/
theorem exists_splitChars_append (sep : Char) (cs : List Char) :
    ∃ front last, splitChars sep cs = front ++ [last] ∧
      ∀ suffix, sep ∉ suffix → splitChars sep (cs ++ suffix) = front ++ [last ++ suffix] := by
  induction cs with
  | nil => exact ⟨[], [], rfl, fun suffix fresh => splitChars_of_not_mem sep suffix fresh⟩
  | cons c rest ih =>
    obtain ⟨front, last, pieces, behind⟩ := ih
    by_cases here : c = sep
    · refine ⟨[] :: front, last, ?_, fun suffix fresh => ?_⟩
      · rw [splitChars, if_pos here, pieces, List.cons_append]
      · rw [List.cons_append, splitChars, if_pos here, behind suffix fresh, List.cons_append]
    · cases front with
      | nil =>
        refine ⟨[], c :: last, ?_, fun suffix fresh => ?_⟩
        · rw [splitChars, if_neg here, pieces]
          rfl
        · rw [List.cons_append, splitChars, if_neg here, behind suffix fresh]
          rfl
      | cons first front =>
        refine ⟨(c :: first) :: front, last, ?_, fun suffix fresh => ?_⟩
        · rw [splitChars, if_neg here, pieces]
          rfl
        · rw [List.cons_append, splitChars, if_neg here, behind suffix fresh]
          rfl

end Text

namespace Path

/-! ### Pieces -/

theorem pieces_append (path : Path) :
    ∃ front last, path.pieces = front ++ [last] ∧ ∀ suffix : String, '/' ∉ suffix.toList →
      (path ++ suffix).pieces = front ++ [last ++ suffix.toList] := by
  obtain ⟨front, last, pieces, behind⟩ := Text.exists_splitChars_append '/' path.toList
  refine ⟨front, last, pieces, fun suffix fresh => ?_⟩
  unfold Path.pieces
  rw [String.toList_append]
  exact behind suffix.toList fresh

/-! ### Absolute paths -/

theorem isAbsolute_iff_head? (path : Path) :
    path.isAbsolute = true ↔ path.toList.head? = some '/' := by
  unfold isAbsolute isAbsoluteChars
  split
  · rename_i slash
    simp [slash]
  · rename_i other
    constructor
    · intro h
      cases h
    · intro first
      obtain ⟨rest, chars⟩ := List.head?_eq_some_iff.mp first
      exact absurd chars (other rest)

/-- An absolute path has an empty piece before its first slash. -/
theorem isAbsolute_iff (path : Path) :
    path.isAbsolute = true ↔ ∃ next more, path.pieces = [] :: next :: more := by
  rw [isAbsolute_iff_head?]
  unfold Path.pieces
  cases path.toList with
  | nil => simp [Text.splitChars]
  | cons c rest =>
    cases pieces : Text.splitChars '/' rest with
    | nil => exact absurd pieces (Text.splitChars_ne_nil '/' rest)
    | cons first more => by_cases slash : c = '/' <;> simp [Text.splitChars, slash, pieces]

theorem isAbsolute_congr (path other : Path)
    (same : (∃ next more, path.pieces = [] :: next :: more) ↔
      ∃ next more, other.pieces = [] :: next :: more) :
    path.isAbsolute = other.isAbsolute := by
  rw [Bool.eq_iff_iff, isAbsolute_iff, isAbsolute_iff, same]

/-- What stands behind a path makes it absolute only if there is nothing before it. -/
theorem isAbsolute_append (path : Path) (suffix : String)
    (relative : Path.isAbsolute suffix = false) :
    (path ++ suffix).isAbsolute = path.isAbsolute := by
  rw [Bool.eq_iff_iff, isAbsolute_iff_head?, isAbsolute_iff_head?, String.toList_append,
    List.head?_append]
  rw [← Bool.not_eq_true, isAbsolute_iff_head?] at relative
  cases path.toList with
  | nil => simpa using relative
  | cons c rest => rfl

/-- What stands behind a path stands behind the whole path that it is joined to. -/
theorem join_append (base path : Path) (suffix : String)
    (relative : Path.isAbsolute suffix = false) :
    base.join (path ++ suffix) = base.join path ++ suffix := by
  unfold join
  rw [isAbsolute_append path suffix relative]
  split
  · rfl
  · split <;> simp only [String.append_assoc]

theorem isAbsolute_join (base path : Path) :
    (base.join path).isAbsolute = (base.isAbsolute || path.isAbsolute) := by
  unfold join
  cases relative : path.isAbsolute with
  | true => simp [relative]
  | false =>
    simp only [Bool.false_eq_true, if_false, Bool.or_false]
    split
    · exact isAbsolute_append base path relative
    · rename_i closed
      rw [Bool.eq_iff_iff, isAbsolute_iff_head?, isAbsolute_iff_head?, String.append_assoc,
        String.toList_append, List.head?_append]
      cases chars : base.toList with
      | nil => simp [chars] at closed
      | cons c rest => rfl

/-! ### Steps -/

/-- The pieces that are components wherever they stand. -/
def stepsOf (pieces : List (List Char)) : List String :=
  (pieces.filter fun piece => !isFiller piece).map String.ofList

/-- The steps that a path takes, the steps up among them. -/
def steps (path : Path) : List String := stepsOf path.pieces

theorem stepsOf_append (front back : List (List Char)) :
    stepsOf (front ++ back) = stepsOf front ++ stepsOf back := by
  simp [stepsOf]

theorem stepsOf_singleton (piece : List Char) (named : isFiller piece = false) :
    stepsOf [piece] = [String.ofList piece] := by
  simp [stepsOf, named]

theorem stepsOf_eq (pieces : List (List Char)) :
    stepsOf pieces = (namesOf pieces).filter (· ≠ ".") := by
  have dot (piece : List Char) : String.ofList piece = "." ↔ piece = ['.'] := by
    rw [← String.toList_inj, String.toList_ofList]
    rfl
  unfold stepsOf namesOf isFiller
  rw [List.filter_map, List.filter_filter]
  refine congrArg _ (List.filter_congr fun piece _ => ?_)
  simp only [Function.comp_apply, ne_eq, dot, Bool.not_or, Bool.and_comm, beq_eq_decide,
    decide_not]

theorem steps_eq (path : Path) : path.steps = path.names.filter (· ≠ ".") := stepsOf_eq _

/-- Fillers at the end take no step. -/
theorem stepsOf_dropFillers (pieces : List (List Char)) :
    stepsOf (dropFillers pieces) = stepsOf pieces := by
  have dropped (rest : List (List Char)) :
      (rest.dropWhile isFiller).filter (fun piece => !isFiller piece) =
        rest.filter fun piece => !isFiller piece := by
    induction rest with
    | nil => rfl
    | cons piece rest ih =>
      rw [List.dropWhile_cons]
      cases filler : isFiller piece <;> simp [filler, ih]
  cases pieces with
  | nil => rfl
  | cons first rest =>
    unfold stepsOf dropFillers
    rw [List.filter_cons, List.filter_cons, List.filter_reverse, dropped, List.filter_reverse,
      List.reverse_reverse]

/-- The steps of a path that is put below another one are the steps of both. -/
theorem steps_join (base rest : Path) (relative : rest.isAbsolute = false) :
    (base.join rest).steps = base.steps ++ rest.steps := by
  rw [steps_eq, steps_eq, steps_eq, names_join base rest relative, List.filter_append]

/-- The components of an absolute path are the root and its steps. -/
theorem components_of_isAbsolute (path : Path) (absolute : path.isAbsolute = true) :
    path.components = "/" :: path.steps := by
  obtain ⟨next, more, pieces⟩ := path.isAbsolute_iff.mp absolute
  unfold components steps
  rw [pieces, absolute]
  simp [stepsOf, isFiller]

/-- Paths that both start at the root, or both do not, and take the same steps have the same
components in every working directory. -/
theorem components_join_congr (cwd path other : Path) (absolute : cwd.isAbsolute = true)
    (start : path.isAbsolute = other.isAbsolute) (same : path.steps = other.steps) :
    (cwd.join path).components = (cwd.join other).components := by
  have root : (cwd.join path).isAbsolute = true := by simp [isAbsolute_join, absolute]
  have root' : (cwd.join other).isAbsolute = true := by simp [isAbsolute_join, absolute]
  rw [components_of_isAbsolute _ root, components_of_isAbsolute _ root']
  cases relative : path.isAbsolute with
  | true =>
    have relative' := start.symm.trans relative
    simp only [join, relative, relative', if_true, same]
  | false =>
    rw [steps_join cwd path relative, steps_join cwd other (start.symm.trans relative), same]

/-! ### The last component -/

/-- A piece that ends in more than two characters is a name, and not the step up. -/
theorem named_append (piece suffix : List Char) (long : 2 < suffix.length) :
    isFiller (piece ++ suffix) = false ∧ piece ++ suffix ≠ ['.', '.'] := by
  have length : 2 < (piece ++ suffix).length := by
    rw [List.length_append]
    omega
  have other (short : List Char) (h : short.length ≤ 2) : piece ++ suffix ≠ short := by
    rintro rfl
    omega
  refine ⟨?_, other _ (by decide)⟩
  rw [isFiller, Bool.or_eq_false_iff, List.isEmpty_eq_false_iff, beq_eq_false_iff_ne]
  exact ⟨other _ (by decide), other _ (by decide)⟩

/-- A path whose last piece is a name ends in a component. -/
theorem trimmed_eq_pieces (path : Path) (front : List (List Char)) (last : List Char)
    (pieces : path.pieces = front ++ [last]) (named : isFiller last = false) :
    path.trimmed = path.pieces := by
  unfold trimmed
  rw [pieces]
  cases front with
  | nil => rfl
  | cons first rest =>
    rw [List.cons_append, dropFillers, List.reverse_append, List.reverse_singleton,
      List.singleton_append, List.dropWhile_cons_of_neg (by simp [named]), List.reverse_cons,
      List.reverse_reverse]

theorem fileName?_eq_some (path : Path) (front : List (List Char)) (last : List Char)
    (pieces : path.pieces = front ++ [last]) (named : isFiller last = false)
    (down : last ≠ ['.', '.']) : path.fileName? = some (String.ofList last) := by
  unfold fileName?
  rw [trimmed_eq_pieces path front last pieces named, pieces, List.getLast?_concat]
  simp [named, down]

/-- The parent of a path with pieces before its last component is made of those pieces. -/
theorem parent?_of_trimmed (path : Path) (first last : List Char) (rest : List (List Char))
    (trimmed : path.trimmed = first :: rest ++ [last]) :
    path.parent? = match dropFillers (first :: rest) with
      | [[]] => some "/"
      | kept => some (ofPieces kept) := by
  have front : (first :: rest ++ [last]).dropLast = first :: rest := List.dropLast_concat
  unfold parent?
  rw [trimmed]
  cases rest with
  | nil => rfl
  | cons next rest =>
    rw [List.cons_append, List.cons_append] at front ⊢
    exact congrArg (fun kept => match dropFillers kept with
      | [[]] => some "/"
      | kept => some (ofPieces kept)) front

/-- Such a parent starts at the root if the first piece is empty. -/
theorem exists_parent?_of_trimmed (path : Path) (first last : List Char)
    (rest : List (List Char)) (trimmed : path.trimmed = first :: rest ++ [last])
    (plain : ∀ piece ∈ first :: rest, '/' ∉ piece) :
    ∃ parent : Path, path.parent? = some parent ∧ (parent.isAbsolute = true ↔ first = []) ∧
      parent.names = namesOf (dropFillers (first :: rest)) := by
  obtain ⟨more, kept⟩ : ∃ more, dropFillers (first :: rest) = first :: more := ⟨_, rfl⟩
  have plain' : ∀ piece ∈ first :: more, '/' ∉ piece := fun piece inside =>
    plain piece ((prefix_dropFillers (first :: rest)).subset (kept ▸ inside))
  rw [path.parent?_of_trimmed first last rest trimmed, kept]
  split
  · rename_i root
    obtain ⟨rfl, rfl⟩ := List.cons.inj root
    exact ⟨"/", rfl, by decide +kernel, by rfl⟩
  · rename_i other
    have found : (ofPieces (first :: more)).pieces = first :: more := by
      unfold Path.pieces ofPieces
      rw [String.toList_ofList]
      exact Text.splitChars_joinChars '/' _ (by simp) plain'
    refine ⟨ofPieces (first :: more), rfl, ?_, names_ofPieces _ (by simp) plain'⟩
    rw [isAbsolute_iff, found]
    cases more with
    | nil =>
      have nonempty : first ≠ [] := fun empty => other (by rw [empty])
      simp [nonempty]
    | cons next more => simp

/-- A path whose last piece is a name has a parent, which starts where the path starts and takes the
steps before the last one. -/
theorem exists_parent? (path : Path) (front : List (List Char)) (last : List Char)
    (pieces : path.pieces = front ++ [last]) (named : isFiller last = false) :
    ∃ parent, path.parent? = some parent ∧ parent.isAbsolute = path.isAbsolute ∧
      parent.steps = stepsOf front := by
  have trimmed := trimmed_eq_pieces path front last pieces named
  cases front with
  | nil =>
    have some : last.isEmpty = false := by
      rw [isFiller, Bool.or_eq_false_iff] at named
      exact named.1
    refine ⟨"", ?_, isAbsolute_congr _ _ ?_, by rfl⟩
    · unfold parent?
      rw [trimmed, pieces]
      simp [some]
    · have nothing : Path.pieces "" = [[]] := by rfl
      rw [pieces, nothing]
      simp
  | cons first rest =>
    have plain : ∀ piece ∈ first :: rest, '/' ∉ piece := fun piece inside =>
      path.slash_not_mem piece (pieces ▸ List.mem_append_left _ inside)
    obtain ⟨parent, found, root, names⟩ :=
      path.exists_parent?_of_trimmed first last rest (trimmed.trans pieces) plain
    refine ⟨parent, found, ?_, ?_⟩
    · rw [Bool.eq_iff_iff, root, isAbsolute_iff, pieces]
      cases rest <;> simp
    · rw [steps_eq, names, ← stepsOf_eq, stepsOf_dropFillers]

end Path

end TsWorkshop
