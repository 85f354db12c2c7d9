import TsWorkshop.Build.Output
import TsWorkshop.Proofs.FileSystem.Emptying

/-!
What the cleaning of an output directory leaves. A cleaning that changes nothing is one of a
directory that is empty already (`cleanOutput_eq_self_iff`), so a second cleaning changes nothing
exactly if the first one left an empty directory. `cleanOutput_empties_iff` says when it does: a
directory that is there is emptied unless its path leads through one of its own entries, but a path
that is missing is only made, and that it is missing does not mean that nothing lies below the place
where it leads.
-/

namespace TsWorkshop

namespace FileSystem

variable (fs : FileSystem)

/-- A path that is an empty directory's. -/
def IsEmptyDirectory (path : Path) : Prop :=
  fs.isDirectory path = true ∧ ∀ q, isBelow path.place q = true → fs.get? q = none

theorem direct_of_isEmptyDirectory (path : Path) (h : fs.IsEmptyDirectory path) :
    path.Direct := by
  intro place inside
  have there := reaches_of_isDirectory path h.1 place inside
  by_contra below
  rw [h.2 place (by simpa using below)] at there
  cases there

variable {fs} (tree : fs.IsTree)

include tree

/-- In a tree nothing lies below a place without children. -/
theorem IsTree.children_eq_nil_iff (p : Place) :
    fs.children p = [] ↔ ∀ q, isBelow p q = true → fs.get? q = none := by
  constructor
  · intro none q below
    by_contra stands
    obtain ⟨name, child, -⟩ := tree.exists_child p q below stands
    rw [none] at child
    cases child
  · intro nothing
    rw [List.eq_nil_iff_forall_not_mem]
    intro name child
    have below := (isBelow_concat p p name).mpr (List.prefix_refl p)
    exact (mem_children fs p name).mp child (nothing _ below)

/-- In a tree a path without steps up that is no directory's has nothing below it. -/
theorem IsTree.vacant (path : Path) (nonempty : path.toList ≠ []) (down : ".." ∉ path.names)
    (other : fs.isDirectory path = false) (q : Place) (below : isBelow path.place q = true) :
    fs.get? q = none := by
  by_contra stands
  have reaches : fs.Reaches path := by
    intro place inside
    obtain ⟨above, apart⟩ := (isBelow_iff _ _).mp below
    have before := path.prefix_place_of_mem_waypoints down place inside
    apply tree.get?_above place q _ stands
    rw [isBelow_iff]
    refine ⟨before.trans above, ?_⟩
    rintro rfl
    exact apart (above.eq_of_length_le before.length_le)
  rw [(fs.isDirectory_iff_reaches path nonempty).mpr reaches] at other
  cases other

end FileSystem

namespace Build

variable (fs : FileSystem) (directory : Path)

theorem cleanOutput_of_isDirectory (there : fs.isDirectory directory = true) :
    cleanOutput fs directory =
      ((fs.emptyDirectory directory).1.mapError fun cause =>
        (Failure.io cause).inContext ("Failed to clean " ++ directory),
       (fs.emptyDirectory directory).2) := by
  unfold cleanOutput
  rw [if_pos (fs.pathExists_of_isDirectory directory there), if_neg (by simp [there])]
  rcases fs.emptyDirectory directory with ⟨_ | _, _⟩ <;> rfl

theorem cleanOutput_of_missing (missing : fs.pathExists directory = false) :
    cleanOutput fs directory =
      ((fs.provideDirectory directory).1.mapError fun cause =>
        (Failure.io cause).inContext ("Failed to create " ++ directory),
       (fs.provideDirectory directory).2) := by
  unfold cleanOutput
  rw [if_neg (by simp [missing])]
  rcases fs.provideDirectory directory with ⟨_ | _, _⟩ <;> rfl

theorem cleanOutput_of_other (there : fs.pathExists directory = true)
    (other : fs.isDirectory directory = false) :
    cleanOutput fs directory =
      (.error (.invalidArgument
        ("Output path exists but is not a directory: " ++ directory)), fs) := by
  unfold cleanOutput
  rw [if_pos there, if_pos (by simp [other])]

/-- A cleaning of what is no directory only adds missing directories on the way. -/
theorem grown_cleanOutput (other : fs.isDirectory directory = false) :
    FileSystem.Grown directory.waypoints fs (cleanOutput fs directory).2 := by
  cases there : fs.pathExists directory with
  | true =>
    rw [cleanOutput_of_other fs directory there other]
    exact FileSystem.Grown.refl _ fs
  | false =>
    rw [cleanOutput_of_missing fs directory there]
    exact fs.grown_provideDirectory directory

theorem isDirectory_or_missing_of_ok (fine : (cleanOutput fs directory).1 = .ok ()) :
    fs.isDirectory directory = true ∨ fs.pathExists directory = false := by
  cases there : fs.pathExists directory with
  | false => exact Or.inr rfl
  | true =>
    left
    by_contra other
    rw [cleanOutput_of_other fs directory there (by simpa using other)] at fine
    cases fine

variable {fs directory} (tree : fs.IsTree)

section There

variable (there : fs.isDirectory directory = true)

include tree there

/-- A directory is rid of what it lists up to the first entry that its path leads through. If there
are more the cleaning fails, as the next one is not found. -/
theorem fst_cleanOutput_of_isDirectory :
    let names := fs.children directory.place
    (cleanOutput fs directory).1 =
      if directory.reached names = names then .ok ()
      else .error ((Failure.io .notFound).inContext ("Failed to clean " ++ directory)) := by
  intro names
  rw [cleanOutput_of_isDirectory fs directory there, FileSystem.emptyDirectory_eq tree there]
  by_cases all : directory.reached names = names
  · rw [if_pos all, if_pos all]
    rfl
  · rw [if_neg all, if_neg all]
    rfl

theorem get?_cleanOutput_of_isDirectory (q : Place) :
    (cleanOutput fs directory).2.get? q =
      if directory.Removes (directory.reached (fs.children directory.place)) q then none
      else fs.get? q := by
  rw [cleanOutput_of_isDirectory fs directory there]
  exact FileSystem.get?_emptyDirectory tree there q

theorem cleanOutput_of_direct (direct : directory.Direct) :
    cleanOutput fs directory = (.ok (), fs.eraseBelow directory.place) := by
  rw [cleanOutput_of_isDirectory fs directory there,
    FileSystem.emptyDirectory_of_direct tree there direct]
  rfl

end There

section Missing

variable (missing : fs.pathExists directory = false)

include missing

/-- A missing directory is made unless a file is in the way. -/
theorem cleanOutput_eq_ok_iff_clear (absolute : directory.isAbsolute = true)
    (named : directory.names.getLast? ≠ some ".") :
    (cleanOutput fs directory).1 = .ok () ↔ fs.Clear directory := by
  rw [cleanOutput_of_missing fs directory missing, mapError_eq_ok_iff]
  constructor
  · intro fine place inside content executable stands
    have made : fs.provideDirectory directory = (.ok (), (fs.provideDirectory directory).2) :=
      Prod.ext fine rfl
    have grown := fs.grown_provideDirectory directory
    have reaches := fs.reaches_of_provideDirectory _ directory
      (directory.toList_ne_nil_of_isAbsolute absolute) made
    have kept := (grown.file_iff place content executable).mpr stands
    rw [reaches place inside] at kept
    cases kept
  · intro clear
    obtain ⟨after, provided⟩ := fs.exists_provideDirectory directory absolute named clear
    rw [provided]

theorem cleanOutput_eq_error (e : Failure) (h : (cleanOutput fs directory).1 = .error e) :
    ∃ cause, e = (Failure.io cause).inContext ("Failed to create " ++ directory) := by
  rw [cleanOutput_of_missing fs directory missing] at h
  cases outcome : (fs.provideDirectory directory).1 with
  | ok => simp [outcome, Except.mapError] at h
  | error cause =>
    rw [outcome] at h
    cases h
    exact ⟨cause, rfl⟩

end Missing

include tree

/-- However a cleaning ends, it leaves a tree. -/
theorem isTree_cleanOutput : (cleanOutput fs directory).2.IsTree := by
  cases there : fs.isDirectory directory with
  | true =>
    rw [cleanOutput_of_isDirectory fs directory there]
    exact tree.emptyDirectory there
  | false =>
    cases present : fs.pathExists directory with
    | true =>
      rw [cleanOutput_of_other fs directory present there]
      exact tree
    | false =>
      rw [cleanOutput_of_missing fs directory present]
      exact tree.provideDirectory directory

/-- However a cleaning ends, each place is as it was, or it lay below the directory and is gone, or
it was missing on the way and is a directory's. -/
theorem cleanOutput_frame (q : Place) :
    (cleanOutput fs directory).2.get? q = fs.get? q ∨
      FileSystem.isBelow directory.place q = true ∧ (cleanOutput fs directory).2.get? q = none ∨
      q ∈ directory.waypoints ∧ fs.get? q = none ∧
        (cleanOutput fs directory).2.get? q = some .directory := by
  cases there : fs.isDirectory directory with
  | true =>
    rw [get?_cleanOutput_of_isDirectory tree there]
    split
    · rename_i gone
      exact Or.inr (Or.inl ⟨gone.isBelow, rfl⟩)
    · exact Or.inl rfl
  | false =>
    rcases grown_cleanOutput fs directory there q with same | made
    · exact Or.inl same
    · exact Or.inr (Or.inr made)

variable (nonempty : directory.toList ≠ [])

include nonempty

/-- A cleaning that succeeds and changes nothing is one of an empty directory. -/
theorem cleanOutput_eq_self_iff :
    cleanOutput fs directory = (.ok (), fs) ↔ fs.IsEmptyDirectory directory := by
  constructor
  · intro same
    rcases isDirectory_or_missing_of_ok fs directory (by rw [same]) with there | missing
    · rw [cleanOutput_of_isDirectory fs directory there, Prod.mk.injEq, mapError_eq_ok_iff] at same
      have emptied := (FileSystem.emptyDirectory_eq_self_iff tree there).mp
        (Prod.ext same.1 same.2)
      exact ⟨there, (tree.children_eq_nil_iff _).mp emptied⟩
    · rw [cleanOutput_of_missing fs directory missing, Prod.mk.injEq, mapError_eq_ok_iff] at same
      have reaches := fs.reaches_of_provideDirectory fs directory nonempty
        (Prod.ext same.1 same.2)
      have there := (fs.isDirectory_iff_reaches directory nonempty).mpr reaches
      rw [fs.pathExists_of_isDirectory directory there] at missing
      cases missing
  · rintro ⟨there, nothing⟩
    have emptied := (FileSystem.emptyDirectory_eq_self_iff tree there).mpr
      ((tree.children_eq_nil_iff _).mpr nothing)
    rw [cleanOutput_of_isDirectory fs directory there, emptied]
    rfl

/-- What a cleaning that succeeds leaves is an empty directory exactly if no part of the path leads
below the directory, and the directory was there or nothing lay below its place. -/
theorem isEmptyDirectory_iff (fine : (cleanOutput fs directory).1 = .ok ()) :
    (cleanOutput fs directory).2.IsEmptyDirectory directory ↔
      directory.Direct ∧ (fs.isDirectory directory = true ∨
        ∀ q, FileSystem.isBelow directory.place q = true → fs.get? q = none) := by
  rcases isDirectory_or_missing_of_ok fs directory fine with there | missing
  · rw [and_iff_left (Or.inl there)]
    constructor
    · exact FileSystem.direct_of_isEmptyDirectory _ directory
    · intro direct
      rw [cleanOutput_of_direct tree there direct]
      refine ⟨?_, fun q below => by rw [FileSystem.get?_eraseBelow, if_pos below]⟩
      rw [FileSystem.isDirectory_iff_reaches _ _ nonempty, FileSystem.reaches_eraseBelow_iff
        (FileSystem.reaches_of_isDirectory directory there)]
      exact direct
  · have absent : fs.isDirectory directory = false := by
      by_contra there
      rw [fs.pathExists_of_isDirectory directory (by simpa using there)] at missing
      cases missing
    have grown := grown_cleanOutput fs directory absent
    rw [cleanOutput_of_missing fs directory missing, mapError_eq_ok_iff] at fine
    have reaches : (cleanOutput fs directory).2.Reaches directory := by
      rw [cleanOutput_of_missing fs directory missing]
      exact fs.reaches_of_provideDirectory _ directory nonempty (Prod.ext fine rfl)
    simp only [absent, Bool.false_eq_true, false_or]
    constructor
    · intro empty
      refine ⟨FileSystem.direct_of_isEmptyDirectory _ directory empty, fun q below => ?_⟩
      rcases grown q with same | ⟨-, vacant, -⟩
      · rw [← same]
        exact empty.2 q below
      · exact vacant
    · rintro ⟨direct, vacant⟩
      refine ⟨(FileSystem.isDirectory_iff_reaches _ _ nonempty).mpr reaches, fun q below => ?_⟩
      rcases grown q with same | ⟨inside, -, -⟩
      · rw [same]
        exact vacant q below
      · rw [direct q inside] at below
        cases below

omit tree nonempty

/-- A path that exists and is no directory's is refused. A directory that is there is rid of what it
lists up to the first entry that its own path leads through; if there are more the cleaning fails,
since the next one is not found, so a path that leads through none of them empties its directory. A
path that is missing is made unless a file is in the way, and all that fails there names the path.
Nothing outside of the directory changes but that missing directories on the way are made. What a
cleaning that succeeds leaves is an empty directory, and a second cleaning changes nothing, exactly
if no part of the path leads below the directory, and the directory was there or nothing lay below
its place; this is so for every path without steps up. -/
theorem cleanOutput_empties_iff (fs : FileSystem) (directory : Path) (tree : fs.IsTree)
    (absolute : directory.isAbsolute = true) :
    let run := cleanOutput fs directory
    let names := fs.children directory.place
    let empties := directory.Direct ∧ (fs.isDirectory directory = true ∨
      ∀ q, FileSystem.isBelow directory.place q = true → fs.get? q = none)
    (fs.pathExists directory = true → fs.isDirectory directory = false →
      run = (.error (.invalidArgument
        ("Output path exists but is not a directory: " ++ directory)), fs)) ∧
    (fs.isDirectory directory = true →
      run.1 = (if directory.reached names = names then .ok ()
        else .error ((Failure.io .notFound).inContext ("Failed to clean " ++ directory))) ∧
      (∀ q, run.2.get? q =
        if directory.Removes (directory.reached names) q then none else fs.get? q) ∧
      (directory.Direct → run = (.ok (), fs.eraseBelow directory.place))) ∧
    (fs.pathExists directory = false →
      (directory.names.getLast? ≠ some "." → (run.1 = .ok () ↔ fs.Clear directory)) ∧
      ∀ e, run.1 = .error e →
        ∃ cause, e = (Failure.io cause).inContext ("Failed to create " ++ directory)) ∧
    (∀ q, run.2.get? q = fs.get? q ∨
      FileSystem.isBelow directory.place q = true ∧ run.2.get? q = none ∨
      q ∈ directory.waypoints ∧ fs.get? q = none ∧ run.2.get? q = some .directory) ∧
    (run.1 = .ok () → (run.2.IsEmptyDirectory directory ↔ empties) ∧
      (cleanOutput run.2 directory = run ↔ empties)) ∧
    (".." ∉ directory.names → empties) := by
  intro run names empties
  have nonempty := directory.toList_ne_nil_of_isAbsolute absolute
  refine ⟨cleanOutput_of_other fs directory, fun there => ⟨?_, ?_, ?_⟩,
    fun missing => ⟨?_, ?_⟩, cleanOutput_frame tree, fun fine => ⟨?_, ?_⟩,
    fun down => ⟨?_, ?_⟩⟩
  · exact fst_cleanOutput_of_isDirectory tree there
  · exact get?_cleanOutput_of_isDirectory tree there
  · exact cleanOutput_of_direct tree there
  · exact cleanOutput_eq_ok_iff_clear missing absolute
  · exact cleanOutput_eq_error missing
  · exact isEmptyDirectory_iff tree nonempty fine
  · have ends : run = (.ok (), run.2) := Prod.ext fine rfl
    have left : run.2.IsTree := isTree_cleanOutput tree
    have again := cleanOutput_eq_self_iff left nonempty
    rw [← ends] at again
    exact again.trans (isEmptyDirectory_iff tree nonempty fine)
  · exact directory.direct_of_not_mem down
  · cases there : fs.isDirectory directory with
    | true => exact Or.inl rfl
    | false => exact Or.inr (tree.vacant directory nonempty down there)

/-- The files of a library in `/work` with an output directory from an older build. -/
def libraryFiles : FileSystem :=
  { entries :=
      [(["work"], .directory), (["work", "tsconfig.json"], .file "\x7b\x7d".toUTF8 false),
       (["work", "src"], .directory), (["work", "src", "index.ts"], .file "export".toUTF8 false),
       (["work", "out"], .directory), (["work", "out", "old.cjs"], .file "old".toUTF8 false),
       (["work", "node_modules"], .directory), (["work", "node_modules", ".bin"], .directory),
       (["work", "node_modules", ".bin", "tsc"], .file "tsc".toUTF8 true)] }

/-- The directory `sub` is listed first, and with it the path to what else is in `out` is gone. -/
example :
    let files := libraryFiles.put ["work", "out", "sub"] .directory
    let run := cleanOutput files "/work/out/sub/.."
    run.1 = .error (.custom
        ("Failed to clean /work/out/sub/..: " ++
          "I/O error: No such file or directory (os error 2)")) ∧
      run.2.isFile "/work/out/old.cjs" = true ∧ run.2.isDirectory "/work/out/sub" = false := by
  decide +kernel

/-- A path that goes up from a directory that is there to another one. -/
theorem cleanOutput_empties_iff_sideways :
    libraryFiles.IsTree ∧ Path.isAbsolute "/work/src/../out/" = true ∧
      (cleanOutput libraryFiles "/work/src/../out/").1 = .ok () ∧
      (cleanOutput libraryFiles "/work/src/../out/").2.IsEmptyDirectory "/work/src/../out/" ∧
      cleanOutput (cleanOutput libraryFiles "/work/src/../out/").2 "/work/src/../out/" =
        cleanOutput libraryFiles "/work/src/../out/" := by
  have tree : libraryFiles.IsTree := by decide +kernel
  have absolute : Path.isAbsolute "/work/src/../out/" = true := by decide +kernel
  have there : libraryFiles.isDirectory "/work/src/../out/" = true := by decide +kernel
  have direct : Path.Direct "/work/src/../out/" := by
    unfold Path.Direct
    decide +kernel
  obtain ⟨-, present, -, -, ends, -⟩ :=
    cleanOutput_empties_iff libraryFiles "/work/src/../out/" tree absolute
  obtain ⟨-, -, emptied⟩ := present there
  have fine : (cleanOutput libraryFiles "/work/src/../out/").1 = .ok () := by
    rw [emptied direct]
  obtain ⟨empty, again⟩ := ends fine
  exact ⟨tree, absolute, fine, empty.mpr ⟨direct, Or.inl there⟩,
    again.mpr ⟨direct, Or.inl there⟩⟩

/-- A path through a missing directory leads to one that is there. The cleaning succeeds and leaves
the old output; a second one removes it. -/
theorem cleanOutput_leaves_output :
    Path.isAbsolute "/work/missing/../out" = true ∧
      libraryFiles.pathExists "/work/missing/../out" = false ∧
      (cleanOutput libraryFiles "/work/missing/../out").1 = .ok () ∧
      (cleanOutput libraryFiles "/work/missing/../out").2.isFile
        "/work/missing/../out/old.cjs" = true ∧
      (cleanOutput (cleanOutput libraryFiles "/work/missing/../out").2
        "/work/missing/../out").2.isFile "/work/missing/../out/old.cjs" = false := by
  refine ⟨?_, ?_, ?_, ?_, ?_⟩ <;> decide +kernel

end Build

end TsWorkshop
