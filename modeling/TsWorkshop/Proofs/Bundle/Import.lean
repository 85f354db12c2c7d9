import TsWorkshop.Bundle.Run
import TsWorkshop.Proofs.Action
import TsWorkshop.Proofs.Bundle.Artifacts
import TsWorkshop.Proofs.Bundle.Wrapper

/-!
What the wrapper of a bundle imports. A wrapper that was written stands beside the bundle that it
was written for, whatever the build directory and the name of the project are, and the specifier of
its import leads from its own directory to that bundle (`writeWrapper_imports_bundle`).
-/

namespace TsWorkshop

namespace Wrapper

/-- The specifier of the import in the first line of a module. -/
def importSpecifier? (text : String) : Option String := do
  let line ← (Text.split '\n' text).head?
  let literal ← (Text.stripStart? "import mod from " line).bind (Text.stripEnd? ";")
  match Json.ofText literal with
  | .ok (.str specifier) => some specifier
  | _ => none

theorem stripEnd?_append (s ending : String) : Text.stripEnd? ending (s ++ ending) = some s := by
  unfold Text.stripEnd?
  rw [String.toList_append, List.reverse_append, Text.stripStart_append, Option.map_some,
    List.reverse_reverse, String.ofList_toList]

theorem importSpecifier?_text (shape : ModuleShape) (path : String) :
    importSpecifier? (text shape path ++ "\n") = some (specifier path) := by
  have line : (Text.split '\n' (text shape path ++ "\n")).head? =
      some ("import mod from " ++ Json.quoted (specifier path) ++ ";") := by
    have pieces : Text.split '\n' (text shape path ++ "\n") = linesOf shape path ++ [""] := by
      rw [← split_text]
      unfold Text.split
      rw [String.toList_append]
      exact (congrArg _ (Text.splitChars_append_sep '\n' _ [])).trans (List.map_append ..)
    rw [pieces]
    rfl
  unfold importSpecifier?
  rw [line, String.append_assoc]
  simp only [bind, Option.bind, Text.stripStart?_append, stripEnd?_append, Json.ofText_quoted]

end Wrapper

namespace Bundle

open TsWorkshop.Path

/-- From a folder, the specifier of a file in it takes the steps of the folder and then the one to
the file. -/
theorem join_specifier (folder : Path) (file : List Char) (plain : '/' ∉ file)
    (named : isFiller file = false) :
    (folder.join ("./" ++ String.ofList file)).isAbsolute = folder.isAbsolute ∧
      (folder.join ("./" ++ String.ofList file)).steps = folder.steps ++ [String.ofList file] := by
  have chars : ("./" ++ String.ofList file).toList = ['.'] ++ '/' :: file := by simp
  have pieces : Path.pieces ("./" ++ String.ofList file) = [['.'], file] := by
    unfold Path.pieces
    rw [chars, Text.splitChars_append_sep, Text.splitChars_of_not_mem '/' file plain]
    rfl
  have relative : isAbsolute ("./" ++ String.ofList file) = false := by
    rw [← Bool.not_eq_true, isAbsolute_iff, pieces]
    simp
  have here : isFiller ['.'] = true := by decide
  have steps : Path.steps ("./" ++ String.ofList file) = [String.ofList file] := by
    rw [Path.steps, pieces]
    simp [stepsOf, named, here]
  exact ⟨by rw [isAbsolute_join, relative, Bool.or_false],
    by rw [steps_join folder _ relative, steps]⟩

/-- The name of a file, less a slash, is not marked as relative. -/
theorem specifier_of_not_mem (file : List Char) (plain : '/' ∉ file) (up : file ≠ ['.', '.']) :
    Wrapper.specifier (String.ofList file) = "./" ++ String.ofList file := by
  refine Wrapper.specifier_of_not_isRelative _ ?_
  have chars : (String.ofList file).toList = file := String.toList_ofList
  rintro (here | above | same)
  · exact plain (chars ▸ here.subset (show '/' ∈ "./".toList by decide))
  · exact plain (chars ▸ above.subset (show '/' ∈ "../".toList by decide))
  · exact up (chars ▸ congrArg String.toList same)

/-- What a wrapper that was written holds, and where it was written. -/
theorem read_of_writeWrapper (host : Host) (progress after : Progress) (root bundle wrapper : Path)
    (file : String) (named : bundle.fileName? = some file)
    (written : (writeWrapper root bundle wrapper).run host progress = (.ok (), after)) :
    ∃ shape, after.files.read wrapper = .ok (Wrapper.text shape file ++ "\n").toUTF8 := by
  unfold writeWrapper at written
  obtain ⟨shape, probed, -, written⟩ := Action.exists_of_run_bind written
  rw [named] at written
  obtain ⟨_, changed, stored, reported⟩ := Action.exists_of_run_bind written
  refine ⟨shape, ?_⟩
  rw [Action.run_mapError] at stored
  cases outcome : probed.files.write wrapper (Wrapper.text shape file ++ "\n").toUTF8 with
  | error e =>
    rw [Action.run_change_error _ host probed e outcome] at stored
    cases stored
  | ok files =>
    rw [Action.run_change_ok _ host probed files outcome] at stored
    cases stored
    cases reported
    exact FileSystem.read_of_write _ files wrapper _ outcome

/-- A wrapper that was written imports the bundle that it was written for: the specifier in its
first line, taken from the directory of the wrapper, has the components of the bundle's path,
whatever directory relative paths start from. -/
theorem writeWrapper_imports_bundle (host : Host) (progress after : Progress) (root dir : Path)
    (name : String)
    (written : (writeWrapper root (artifactPath dir name "cjs") (artifactPath dir name "mjs")).run
      host progress = (.ok (), after)) :
    ∃ (text specifier : String) (folder : Path),
      after.files.read (artifactPath dir name "mjs") = .ok text.toUTF8 ∧
      Wrapper.importSpecifier? text = some specifier ∧
      (artifactPath dir name "mjs").parent? = some folder ∧
      ∀ cwd : Path, cwd.isAbsolute = true →
        (cwd.join (folder.join specifier)).components =
          (cwd.join (artifactPath dir name "cjs")).components := by
  obtain ⟨front, last, pieces, behind⟩ := (dir.join name).pieces_append
  have bundle : (artifactPath dir name "cjs").pieces = front ++ [last ++ ".cjs".toList] := by
    rw [artifactPath_eq]
    exact behind ".cjs" (by decide)
  have wrapper : (artifactPath dir name "mjs").pieces = front ++ [last ++ ".mjs".toList] := by
    rw [artifactPath_eq]
    exact behind ".mjs" (by decide)
  have plain : '/' ∉ last ++ ".cjs".toList :=
    (artifactPath dir name "cjs").slash_not_mem _ (by rw [bundle]; simp)
  obtain ⟨named, up⟩ := named_append last ".cjs".toList (by decide)
  have file := fileName?_eq_some _ front _ bundle named up
  obtain ⟨shape, stored⟩ := read_of_writeWrapper host progress after root _ _ _ file written
  obtain ⟨folder, parent, start, steps⟩ :=
    exists_parent? _ front _ wrapper (named_append last ".mjs".toList (by decide)).1
  refine ⟨_, _, folder, stored, Wrapper.importSpecifier?_text shape _, parent,
    fun cwd absolute => ?_⟩
  rw [specifier_of_not_mem _ plain up]
  obtain ⟨start', steps'⟩ := join_specifier folder _ plain named
  refine components_join_congr cwd _ _ absolute ?_ ?_
  · rw [start', start, artifactPath_eq, artifactPath_eq, isAbsolute_append _ _ (by decide),
      isAbsolute_append _ _ (by decide)]
  · rw [steps', steps, Path.steps, bundle, stepsOf_append, stepsOf_singleton _ named]

/-- A build directory with a directory in it, and a program that loads modules. -/
def builtFiles : FileSystem :=
  { entries :=
      [(["bin"], .directory), (["bin", "node"], .file "node".toUTF8 true),
       (["work"], .directory), (["work", "build"], .directory),
       (["work", "build", "@scope"], .directory)] }

/-- A host where every module that is loaded exports an object. -/
def exporting : Host :=
  { cwd := "/work"
    environment := [("PATH", "/bin")]
    launch := fun _ files =>
      (.ok
        { status := .exited 0, stdout := "\x7b\"type\":\"object\",\"keys\":[\"a\"]\x7d".toUTF8
          stderr := .empty }, files)
    now := ⟨0, 0⟩ }

/-- Writing the wrapper of a package with a scope, a step back and a quote in its name. -/
def scopedName : String := "@scope/../q\"d.x"

def writeScoped : Action Failure Unit :=
  writeWrapper "/work" (artifactPath "/work/build" scopedName "cjs")
    (artifactPath "/work/build" scopedName "mjs")

/-- The wrapper of a package with a scope, a step back and a quote in its name imports the bundle
beside it. -/
theorem writeWrapper_imports_bundle_scoped :
    ∃ (after : Progress) (text specifier : String) (folder : Path),
      writeScoped.run exporting { files := builtFiles } = (.ok (), after) ∧
      after.files.read (artifactPath "/work/build" scopedName "mjs") = .ok text.toUTF8 ∧
      Wrapper.importSpecifier? text = some specifier ∧
      (artifactPath "/work/build" scopedName "mjs").parent? = some folder ∧
      (Path.join "/" (folder.join specifier)).components =
        ["/", "work", "build", "@scope", "..", "q\"d.x.cjs"] := by
  have succeeds : (writeScoped.run exporting { files := builtFiles }).1 = .ok () := by
    decide +kernel
  obtain ⟨after, ran⟩ := Action.exists_of_run_eq_ok succeeds
  obtain ⟨text, specifier, folder, stored, imported, parent, leads⟩ :=
    writeWrapper_imports_bundle exporting { files := builtFiles } after "/work" "/work/build"
      scopedName ran
  refine ⟨after, text, specifier, folder, ran, stored, imported, parent, ?_⟩
  rw [leads "/" (by decide)]
  decide +kernel

end Bundle

end TsWorkshop
