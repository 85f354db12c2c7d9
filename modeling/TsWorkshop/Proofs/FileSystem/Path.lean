import Mathlib.Data.List.Infix
import TsWorkshop.FileSystem.Access

/-!
Where paths lead. Without links the place that a path leads to is found by its names alone
(`Path.place`), and so are the places that it passes on the way (`Path.waypoints`). A path above
another one has an initial part of its names (`prefix_names_of_mem_ancestorsFrom`), so it leads to
one of the other's waypoints.
-/

namespace TsWorkshop

namespace Text

theorem splitChars_ne_nil (sep : Char) (cs : List Char) : splitChars sep cs ≠ [] := by
  cases cs with
  | nil => simp [splitChars]
  | cons c rest =>
    unfold splitChars
    split
    · simp
    · split <;> simp

theorem not_mem_of_mem_splitChars (sep : Char) (cs piece : List Char)
    (h : piece ∈ splitChars sep cs) : sep ∉ piece := by
  induction cs generalizing piece with
  | nil =>
    obtain rfl : piece = [] := by simpa [splitChars] using h
    simp
  | cons c rest ih =>
    unfold splitChars at h
    split at h
    · rcases List.mem_cons.mp h with rfl | later
      · simp
      · exact ih piece later
    · rename_i other
      cases pieces : splitChars sep rest with
      | nil => exact absurd pieces (splitChars_ne_nil sep rest)
      | cons first later =>
        rw [pieces] at h ih
        rcases List.mem_cons.mp h with rfl | inside
        · have fresh := ih first (by simp)
          simp [fresh, Ne.symm other]
        · exact ih piece (List.mem_cons_of_mem _ inside)

theorem splitChars_of_not_mem (sep : Char) (piece : List Char) (h : sep ∉ piece) :
    splitChars sep piece = [piece] := by
  induction piece with
  | nil => rfl
  | cons c rest ih =>
    simp only [List.mem_cons, not_or] at h
    rw [splitChars, if_neg (Ne.symm h.1), ih h.2]

/-- A separator parts the pieces before it from those behind it. -/
theorem splitChars_append_sep (sep : Char) (left right : List Char) :
    splitChars sep (left ++ sep :: right) = splitChars sep left ++ splitChars sep right := by
  induction left with
  | nil => simp [splitChars]
  | cons c rest ih =>
    rw [List.cons_append, splitChars, splitChars, ih]
    by_cases here : c = sep
    · simp [here]
    · cases pieces : splitChars sep rest with
      | nil => exact absurd pieces (splitChars_ne_nil sep rest)
      | cons first later => simp [here]

/-- Pieces that are put together with a separator and taken apart again. -/
theorem splitChars_joinChars (sep : Char) (pieces : List (List Char)) (some : pieces ≠ [])
    (h : ∀ piece ∈ pieces, sep ∉ piece) : splitChars sep (joinChars sep pieces) = pieces := by
  induction pieces with
  | nil => exact absurd rfl some
  | cons piece rest ih =>
    cases rest with
    | nil => exact splitChars_of_not_mem sep piece (h piece (by simp))
    | cons next rest =>
      rw [joinChars, splitChars_append_sep, splitChars_of_not_mem sep piece (h piece (by simp)),
        ih (by simp) fun other later => h other (List.mem_cons_of_mem _ later)]
      rfl

end Text

namespace Path

/-- Where a name leads from a directory. -/
def turn (place : Place) (name : String) : Place :=
  if name = "." then place else if name = ".." then place.dropLast else place ++ [name]

/-- Where names lead from the root. -/
def placeOf (names : List String) : Place := names.foldl turn []

/-- The place that a path leads to, if it leads anywhere. -/
def place (path : Path) : Place := placeOf path.names

/-- The places that a path passes, the root and its own among them. -/
def waypoints (path : Path) : List Place := path.names.inits.map placeOf

theorem placeOf_mem_waypoints (path : Path) (names : List String) (h : names <+: path.names) :
    placeOf names ∈ path.waypoints :=
  List.mem_map_of_mem ((List.mem_inits names path.names).mpr h)

/-! ### Names of parents -/

theorem slash_not_mem (path : Path) (piece : List Char) (h : piece ∈ path.pieces) :
    '/' ∉ piece :=
  Text.not_mem_of_mem_splitChars '/' path.toList piece h

/-- The names among pieces. -/
def namesOf (pieces : List (List Char)) : List String :=
  (pieces.filter fun piece => !piece.isEmpty).map String.ofList

theorem prefix_namesOf (left right : List (List Char)) (h : left <+: right) :
    namesOf left <+: namesOf right :=
  (h.filter _).map _

theorem names_ofPieces (pieces : List (List Char)) (some : pieces ≠ [])
    (h : ∀ piece ∈ pieces, '/' ∉ piece) : (ofPieces pieces).names = namesOf pieces := by
  rw [names, Path.pieces, ofPieces, String.toList_ofList,
    Text.splitChars_joinChars '/' pieces some h]
  rfl

theorem prefix_dropFillers (pieces : List (List Char)) : dropFillers pieces <+: pieces := by
  cases pieces with
  | nil => exact List.prefix_refl _
  | cons first rest =>
    rw [dropFillers, List.prefix_cons_inj, ← List.reverse_suffix, List.reverse_reverse]
    exact List.dropWhile_suffix _

theorem dropFillers_ne_nil (pieces : List (List Char)) (some : pieces ≠ []) :
    dropFillers pieces ≠ [] := by
  cases pieces with
  | nil => exact absurd rfl some
  | cons first rest => simp [dropFillers]

/-- The names of a path less its last component are the first names of the path. -/
theorem prefix_names_parent? (path parent : Path) (h : path.parent? = some parent) :
    parent.names <+: path.names := by
  unfold parent? at h
  split at h
  · cases h
  · split at h
    · cases h
    · cases h
      exact List.nil_prefix
  · rename_i empty single
    split at h
    · cases h
      exact List.nil_prefix
    · cases h
      have more : path.trimmed.dropLast ≠ [] := by
        intro none
        rcases trimmed : path.trimmed with _ | ⟨first, _ | ⟨second, rest⟩⟩
        · exact empty trimmed
        · exact single first trimmed
        · simp [trimmed] at none
      have shorter : path.trimmed.dropLast <+: path.trimmed := List.dropLast_prefix _
      have kept : dropFillers path.trimmed.dropLast <+: path.pieces :=
        (prefix_dropFillers _).trans (shorter.trans (prefix_dropFillers _))
      rw [names_ofPieces _ (dropFillers_ne_nil _ more) fun piece inside =>
        path.slash_not_mem piece (kept.subset inside)]
      exact prefix_namesOf _ _ kept

theorem prefix_names_of_mem_ancestorsFrom (fuel : Nat) (path above : Path)
    (h : above ∈ ancestorsFrom fuel path) : above.names <+: path.names := by
  induction fuel generalizing path with
  | zero => simp [ancestorsFrom] at h
  | succ fuel ih =>
    unfold ancestorsFrom at h
    split at h
    · rename_i parent known
      rcases List.mem_cons.mp h with rfl | further
      · exact List.prefix_refl _
      · exact (ih parent further).trans (path.prefix_names_parent? parent known)
    · obtain rfl : above = path := by simpa using h
      exact List.prefix_refl _

/-! ### Names below a directory -/

theorem namesOf_append (left right : List (List Char)) :
    namesOf (left ++ right) = namesOf left ++ namesOf right := by
  simp [namesOf]

/-- The names of a path that is put below another one are the names of both. -/
theorem names_join (base rest : Path) (relative : rest.isAbsolute = false) :
    (base.join rest).names = base.names ++ rest.names := by
  have names_append (left right : List Char) :
      namesOf (Text.splitChars '/' (left ++ '/' :: right)) =
        namesOf (Text.splitChars '/' left) ++ namesOf (Text.splitChars '/' right) := by
    rw [Text.splitChars_append_sep, namesOf_append]
  have names_eq (path : Path) : path.names = namesOf (Text.splitChars '/' path.toList) := rfl
  unfold join
  rw [relative, if_neg (by simp)]
  split
  · rename_i open_
    rcases open_ with empty | slash
    · obtain rfl : base = "" := by simpa using empty
      simp [names_eq, Text.splitChars, namesOf]
    · obtain ⟨initial, same⟩ := List.getLast?_eq_some_iff.mp slash
      rw [names_eq, names_eq base, String.toList_append, same, List.append_assoc,
        List.singleton_append, names_append, names_append]
      simp [names_eq, Text.splitChars, namesOf]
  · rw [names_eq, String.toList_append, String.toList_append, List.append_assoc]
    exact names_append base.toList rest.toList

/-- A path below a directory leads where its names lead from there. -/
theorem place_join (base rest : Path) (relative : rest.isAbsolute = false) :
    (base.join rest).place = rest.names.foldl turn base.place := by
  rw [place, placeOf, names_join base rest relative, List.foldl_append]
  rfl

/-! ### Places on the way -/

/-- A path that stands above another one leads to a waypoint of it. -/
theorem place_mem_waypoints (path above : Path) (h : above ∈ path.ancestors) :
    above.place ∈ path.waypoints :=
  path.placeOf_mem_waypoints _ (prefix_names_of_mem_ancestorsFrom _ path above h)

end Path

end TsWorkshop
