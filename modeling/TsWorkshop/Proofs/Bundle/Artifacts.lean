import Mathlib.Algebra.Order.BigOperators.Group.List
import Mathlib.Algebra.Order.Group.Nat
import TsWorkshop.Config.Validation
import TsWorkshop.Proofs.FileSystem.Access
import TsWorkshop.Proofs.FileSystem.Components
import TsWorkshop.Process.Arguments

/-!
Where the artifacts of a library are put. The name of the project is a path in the build directory:
an absolute name stands for itself, and a name may lead out of the directory. What decides is the
part of the name before its last slash, since the rest is followed by an extension and so always is
the name of a file (`Path.place_artifactPath`). An artifact lies in every build directory for
exactly the names that are relative and never climb above where they start
(`Config.artifact_isBelow_iff`).
-/

namespace TsWorkshop

namespace Path

/-! ### Names that stay below -/

/-- How often names lead one directory up. -/
def ups (names : List String) : Nat := names.count ".."

/-- How often names lead one directory down. -/
def downs (names : List String) : Nat := names.countP fun name => name ≠ "." ∧ name ≠ ".."

/-- No initial part of the names leads up more often than down. -/
def StaysBelow (names : List String) : Prop :=
  ∀ initial, initial <+: names → ups initial ≤ downs initial

instance (names : List String) : Decidable (StaysBelow names) :=
  decidable_of_iff (∀ initial ∈ names.inits, ups initial ≤ downs initial)
    (forall_congr' fun initial => by rw [List.mem_inits])

theorem staysBelow_nil : StaysBelow [] := by
  intro initial isInitial
  rw [List.prefix_nil.mp isInitial]
  exact Nat.le_refl 0

theorem staysBelow_concat (names : List String) (name : String) :
    StaysBelow (names ++ [name]) ↔
      StaysBelow names ∧ ups (names ++ [name]) ≤ downs (names ++ [name]) := by
  constructor
  · intro h
    exact ⟨fun initial isInitial => h initial (isInitial.trans (List.prefix_append _ _)),
      h _ (List.prefix_refl _)⟩
  · rintro ⟨before, whole⟩ initial isInitial
    rcases List.prefix_concat_iff.mp isInitial with rfl | shorter
    · exact whole
    · exact before initial shorter

/-- How a name leads on from a place. -/
inductive Leads (name : String) : Prop
  | nowhere (ups_concat : ∀ names, ups (names ++ [name]) = ups names)
      (downs_concat : ∀ names, downs (names ++ [name]) = downs names)
      (turn_eq : ∀ place, turn place name = place)
  | up (ups_concat : ∀ names, ups (names ++ [name]) = ups names + 1)
      (downs_concat : ∀ names, downs (names ++ [name]) = downs names)
      (turn_eq : ∀ place, turn place name = place.dropLast)
  | down (ups_concat : ∀ names, ups (names ++ [name]) = ups names)
      (downs_concat : ∀ names, downs (names ++ [name]) = downs names + 1)
      (turn_eq : ∀ place, turn place name = place ++ [name])

theorem leads (name : String) : Leads name := by
  by_cases here : name = "."
  · subst here
    exact .nowhere (by simp [ups]) (by simp [downs]) (by simp [turn])
  · by_cases above : name = ".."
    · subst above
      exact .up (by simp [ups]) (by simp [downs]) (by simp [turn])
    · refine .down (fun names => ?_) (fun names => ?_) fun place => ?_
      · simp [ups, above]
      · simp [downs, here, above]
      · simp [turn, here, above]

/-- A name of more than two characters leads down. -/
theorem turn_of_length (place : Place) (name : String) (h : 2 < name.length) :
    turn place name = place ++ [name] := by
  have here : name ≠ "." := fun same => absurd (same ▸ h) (by decide)
  have above : name ≠ ".." := fun same => absurd (same ▸ h) (by decide)
  rw [turn, if_neg here, if_neg above]

/-- Names that stay below lead from every place to one below it, by as many names as they lead down
more often than up. -/
theorem foldl_turn_of_staysBelow (base : Place) (names : List String) (h : StaysBelow names) :
    names.foldl turn base = base ++ placeOf names ∧
      (placeOf names).length + ups names = downs names := by
  unfold placeOf
  induction names using List.reverseRecOn with
  | nil => exact ⟨(List.append_nil base).symm, rfl⟩
  | append_singleton names name ih =>
    obtain ⟨before, whole⟩ := (staysBelow_concat names name).mp h
    obtain ⟨below, depth⟩ := ih before
    rw [List.foldl_concat, List.foldl_concat, below]
    cases leads name with
    | nowhere up down turns => rw [turns, turns, up, down]; exact ⟨rfl, depth⟩
    | up up down turns =>
      -- the names before lead down more often than up, so the last of their names is taken back
      rw [up, down] at whole
      have some : 0 < (names.foldl turn []).length := by omega
      rw [turns, turns, up, down,
        List.dropLast_append_of_ne_nil (List.length_pos_iff.mp some), List.length_dropLast]
      exact ⟨rfl, by omega⟩
    | down up down turns =>
      rw [turns, turns, up, down, List.append_assoc, List.length_append, List.length_singleton]
      exact ⟨rfl, by omega⟩

/-- Names lead to a place that is made of the first place's names and their own. -/
theorem mem_foldl_turn (base : Place) (names : List String) (name : String)
    (h : name ∈ names.foldl turn base) : name ∈ base ∨ name ∈ names := by
  induction names using List.reverseRecOn with
  | nil => exact .inl h
  | append_singleton names last ih =>
    rw [List.foldl_concat] at h
    rw [List.mem_append, List.mem_singleton]
    cases leads last with
    | nowhere _ _ turns =>
      rw [turns] at h
      exact (ih h).imp_right .inl
    | up _ _ turns =>
      rw [turns] at h
      exact (ih (List.mem_of_mem_dropLast h)).imp_right .inl
    | down _ _ turns =>
      rw [turns, List.mem_append, List.mem_singleton] at h
      rcases h with earlier | here
      · exact (ih earlier).imp_right .inl
      · exact .inr (.inr here)

/-- Names that climb above a directory never come back to it, if no name among them is its own. -/
theorem not_mem_foldl_turn (names : List String) (own : String) (fresh : own ∉ names)
    (climbs : ¬ StaysBelow names) : own ∉ names.foldl turn [own] := by
  induction names using List.reverseRecOn with
  | nil => exact absurd staysBelow_nil climbs
  | append_singleton names name ih =>
    rw [List.mem_append, List.mem_singleton, not_or] at fresh
    rw [List.foldl_concat]
    by_cases before : StaysBelow names
    · -- the last name is the first that climbs, so it leads up from the directory itself
      obtain ⟨below, depth⟩ := foldl_turn_of_staysBelow [own] names before
      have level := before names (List.prefix_refl _)
      have above : downs (names ++ [name]) < ups (names ++ [name]) := by
        rw [staysBelow_concat, not_and, not_le] at climbs
        exact climbs before
      cases leads name with
      | nowhere up down _ => rw [up, down] at above; omega
      | down up down _ => rw [up, down] at above; omega
      | up up down turns =>
        rw [up, down] at above
        have home : placeOf names = [] := List.eq_nil_of_length_eq_zero (by omega)
        rw [turns, below, home]
        exact List.not_mem_nil
    · have earlier := ih fresh.1 before
      cases leads name with
      | nowhere _ _ turns => rwa [turns]
      | up _ _ turns =>
        rw [turns]
        exact fun inside => earlier (List.mem_of_mem_dropLast inside)
      | down _ _ turns =>
        rw [turns, List.mem_append, List.mem_singleton, not_or]
        exact ⟨earlier, fresh.2⟩

/-! ### Artifacts -/

/-- The paths of the artifacts differ in what follows the last piece of one path. -/
theorem artifactPath_eq (dir : Path) (name extension : String) :
    artifactPath dir name extension = dir.join name ++ ("." ++ extension) := by
  have relative : isAbsolute ("." ++ extension) = false := by
    rw [← Bool.not_eq_true, isAbsolute_iff_head?, String.toList_append]
    simp
  rw [artifactPath, String.append_assoc, join_append dir name _ relative]

/-- The names before the last slash of a path. -/
def folders (path : Path) : List String := namesOf path.pieces.dropLast

/-- An artifact is a file, in the place that the names before the last slash of its name lead to:
from the build directory, or from the root if the name is absolute. -/
theorem place_artifactPath (dir : Path) (name extension : String)
    (known : extension ∈ ["cjs", "mjs"]) :
    ∃ file, (artifactPath dir name extension).place =
      (folders name).foldl turn (if isAbsolute name then [] else dir.place) ++ [file] := by
  obtain ⟨relative, plain, long⟩ : isAbsolute ("." ++ extension) = false ∧
      '/' ∉ ("." ++ extension).toList ∧ 2 < ("." ++ extension).toList.length := by
    simp only [List.mem_cons, List.not_mem_nil, or_false] at known
    rcases known with rfl | rfl <;> decide
  obtain ⟨front, last, pieces, behind⟩ := pieces_append name
  have folders_eq : folders name = namesOf front := by
    rw [folders, pieces, List.dropLast_concat]
  let file := String.ofList (last ++ ("." ++ extension).toList)
  have length : 2 < file.length := by
    rw [String.length_ofList, List.length_append]
    omega
  have names : Path.names (name ++ ("." ++ extension)) = folders name ++ [file] := by
    rw [Path.names, behind _ plain, folders_eq]
    exact (namesOf_append front [_]).trans (by simp [namesOf, file])
  have down (place : Place) : turn place file = place ++ [file] := turn_of_length place file length
  refine ⟨file, ?_⟩
  rw [artifactPath_eq]
  cases absolute : isAbsolute name with
  | true =>
    rw [join, absolute, if_pos rfl, if_pos rfl, place, names, placeOf, List.foldl_concat, down]
  | false =>
    rw [← join_append dir name _ relative, place_join dir _
      ((isAbsolute_append name _ relative).trans absolute), names, List.foldl_concat, down]
    rfl

/-- A directory whose name is none of some names, right below the root. -/
theorem exists_fresh_directory (names : List String) :
    ∃ (dir : Path) (own : String), own ∉ names ∧ dir.isAbsolute = true ∧ dir.place = [own] := by
  let own := String.ofList (List.replicate ((names.map String.length).sum + 3) 'x')
  have length : own.length = (names.map String.length).sum + 3 := by
    rw [String.length_ofList, List.length_replicate]
  have fresh : own ∉ names := by
    intro inside
    have : own.length ≤ (names.map String.length).sum :=
      List.le_sum_of_mem (List.mem_map_of_mem inside)
    omega
  have plain : '/' ∉ own.toList := by
    rw [String.toList_ofList]
    exact fun slash => absurd (List.eq_of_mem_replicate slash) (by decide)
  have pieces : Path.pieces ("/" ++ own) = [[], own.toList] := by
    rw [Path.pieces, String.toList_append]
    exact congrArg ([] :: ·) (Text.splitChars_of_not_mem '/' own.toList plain)
  have names_eq : Path.names ("/" ++ own) = [own] := by
    have some : own.toList.isEmpty = false := by
      rw [List.isEmpty_eq_false_iff, ← List.length_pos_iff, String.length_toList]
      omega
    rw [Path.names, pieces]
    simp [some]
  refine ⟨"/" ++ own, own, fresh, (isAbsolute_iff _).mpr ⟨_, _, pieces⟩, ?_⟩
  rw [place, names_eq, placeOf, List.foldl_cons, List.foldl_nil,
    turn_of_length [] own (by omega), List.nil_append]

end Path

namespace Config

open FileSystem

/-- The artifacts of a library lie in its build directory if the names before the last slash of the
project's name lead back to it or below it. They do so in every build directory for exactly the
names that are relative and never climb above where they start. -/
theorem artifact_isBelow_iff (c : Config) (extension : String)
    (known : extension ∈ ["cjs", "mjs"]) :
    (∀ dir : Path, isBelow dir.place (artifactPath dir c.name extension).place = true ↔
      dir.place <+: (Path.folders c.name).foldl Path.turn
        (if Path.isAbsolute c.name then [] else dir.place)) ∧
    ((∀ dir : Path, dir.isAbsolute = true →
        isBelow dir.place (artifactPath dir c.name extension).place = true) ↔
      Path.isAbsolute c.name = false ∧ Path.StaysBelow (Path.folders c.name)) := by
  have inside (dir : Path) : isBelow dir.place (artifactPath dir c.name extension).place = true ↔
      dir.place <+: (Path.folders c.name).foldl Path.turn
        (if Path.isAbsolute c.name then [] else dir.place) := by
    obtain ⟨file, place⟩ := Path.place_artifactPath dir c.name extension known
    rw [place, isBelow_concat]
  refine ⟨inside, fun everywhere => ?_, ?_⟩
  · obtain ⟨dir, own, fresh, absolute, place⟩ :=
      Path.exists_fresh_directory (Path.folders c.name)
    have here := (inside dir).mp (everywhere dir absolute)
    rw [place] at here
    have among : own ∈ (Path.folders c.name).foldl Path.turn
        (if Path.isAbsolute c.name then [] else [own]) := here.subset List.mem_cons_self
    by_contra bad
    cases start : Path.isAbsolute c.name with
    | true =>
      rw [start, if_pos rfl] at among
      exact (Path.mem_foldl_turn [] _ own among).elim List.not_mem_nil fresh
    | false =>
      rw [start, if_neg (by simp)] at among
      exact Path.not_mem_foldl_turn _ own fresh (fun stays => bad ⟨start, stays⟩) among
  · rintro ⟨relative, stays⟩ dir -
    rw [inside dir, relative, if_neg (by simp),
      (Path.foldl_turn_of_staysBelow dir.place _ stays).1]
    exact List.prefix_append _ _

/-- The bundle of a scoped package lies below the build directory, also if its name takes a step
back. -/
theorem artifact_isBelow_iff_scoped :
    "cjs" ∈ ["cjs", "mjs"] ∧ Path.isAbsolute "/work/build" = true ∧
      artifactPath "/work/build" "@scope/../pkg" "cjs" = "/work/build/@scope/../pkg.cjs" ∧
      isBelow (Path.place "/work/build")
        (artifactPath "/work/build" "@scope/../pkg" "cjs").place = true := by
  have known : "cjs" ∈ ["cjs", "mjs"] := by decide
  refine ⟨known, by decide, by decide +kernel, ?_⟩
  exact (artifact_isBelow_iff { name := "@scope/../pkg" } "cjs" known).2.mpr
    ⟨by decide, by decide +kernel⟩ "/work/build" (by decide)

/-- Names that are accepted, an absolute one and one that climbs, with bundles outside of the build
directory. -/
theorem artifact_not_isBelow :
    (Config.validate { name := "/etc/demo", build.mode := .library } = ([], .ok ()) ∧
      artifactPath "/work/build" "/etc/demo" "cjs" = "/etc/demo.cjs" ∧
      isBelow (Path.place "/work/build")
        (artifactPath "/work/build" "/etc/demo" "cjs").place = false) ∧
    (Config.validate { name := "../demo", build.mode := .library } = ([], .ok ()) ∧
      (artifactPath "/work/build" "../demo" "cjs").place = ["work", "demo.cjs"] ∧
      isBelow (Path.place "/work/build")
        (artifactPath "/work/build" "../demo" "cjs").place = false) := by
  decide +kernel

end Config

end TsWorkshop
