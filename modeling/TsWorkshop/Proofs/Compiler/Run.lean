import TsWorkshop.Compiler.Run
import TsWorkshop.Proofs.Tool.Run

/-!
Looking at a project by its compiler. Finding a configuration file leaves the files alone, and so
does asking for its options where the compiler only answers. The configuration file that is found is
a file, and the options are those of that file. What the compiler leaves behind decides how asking
and compiling end.
-/

namespace TsWorkshop

variable {host : Host}

namespace Compiler

theorem isFile_of_configPath (fs : FileSystem) (root config : Path) (configured : Option Path)
    (h : configPath fs root configured = .ok config) : fs.isFile config = true := by
  unfold configPath at h
  split at h
  · split at h
    · rename_i there
      cases h
      exact there
    · cases h
  · split at h
    · rename_i found
      cases h
      unfold nearestConfig? Tool.firstFile? at found
      exact List.find?_some found
    · cases h

theorem path_of_ofText (config : Path) (text : String) (options : CompilerOptions)
    (h : CompilerOptions.ofText config text = .ok options) : options.path = config := by
  obtain ⟨shown, -, h⟩ := (bind_eq_ok_iff _ _ _).mp h
  cases h
  rfl

/-! ### Looking at a project -/

/-- A compiler that is asked for the options of a configuration file changes no file. -/
def OnlyShows (host : Host) : Prop :=
  ∀ (l : Launch) (files : FileSystem), "--showConfig" ∈ l.args → (host.launch l files).2 = files

theorem keepsFiles_showConfig (shows : OnlyShows host) (root config : Path) :
    Action.KeepsFiles host (showConfig root config) := by
  refine ((Tool.keepsFiles_resolve root "tsc").mapError _).bind fun compiler => ?_
  have still : ∀ files, (host.launch
      (Tool.command host root compiler ["-p", config, "--showConfig"]) files).2 = files := by
    intro files
    exact shows _ files (by simp [Tool.command])
  refine ((Tool.keepsFiles_exec root compiler _ still).mapError _).bind fun output => ?_
  split
  · exact Action.keepsFiles_pure _
  · exact Action.keepsFiles_fail _

theorem readsFiles_findConfig (root : Path) (configured : Option Path) :
    Action.ReadsFiles host (findConfig root configured) := by
  refine Action.readsFiles_files.bind fun fs => ?_
  split
  · exact (Action.readsFiles_report _).bind fun _ => Action.readsFiles_pure _
  · exact Action.readsFiles_fail _

theorem onFiles_findConfig (root : Path) (configured : Option Path) (files : FileSystem) :
    (findConfig root configured).onFiles host files =
      ((configPath files root configured).mapError .build, files) := by
  unfold findConfig Action.onFiles
  simp only [Action.run_bind, Action.run_files]
  cases configPath files root configured <;> rfl

theorem onFiles_findConfig_ok (root : Path) (configured : Option Path) (files : FileSystem)
    (config : Path) (found : configPath files root configured = .ok config) :
    (findConfig root configured).onFiles host files = (.ok config, files) := by
  rw [onFiles_findConfig, found]
  rfl

theorem readsFiles_showConfig (root config : Path) :
    Action.ReadsFiles host (showConfig root config) := by
  refine ((Tool.readsFiles_resolve root "tsc").mapError _).bind fun compiler => ?_
  refine ((Tool.readsFiles_exec root compiler _).mapError _).bind fun output => ?_
  split
  · exact Action.readsFiles_pure _
  · exact Action.readsFiles_fail _

theorem readsFiles_compile (root config : Path) :
    Action.ReadsFiles host (compile root config) :=
  ((Tool.readsFiles_resolve root "tsc").mapError _).bind fun compiler =>
    ((Tool.readsFiles_output root compiler _).mapError _).bind fun _ =>
      (Action.readsFiles_ofExcept _).mapError _

/-- Compiling is judged by what the compiler leaves behind. -/
theorem onFiles_compile (root config : Path) (compiler : Invocation) (output : Output)
    (files after : FileSystem)
    (resolved : (Tool.resolve root "tsc").onFiles host files = (.ok compiler, files))
    (launched : host.launch (Tool.command host root compiler ["-p", config, "--pretty", "false"])
      files = (.ok output, after)) :
    (compile root config).onFiles host files =
      ((outcome compiler ["-p", config, "--pretty", "false"] output).mapError .tool, after) := by
  have printed := Tool.onFiles_output root compiler ["-p", config, "--pretty", "false"] files after
    output launched
  unfold compile Action.onFiles
  obtain ⟨first, rfl, goes⟩ := ((Tool.readsFiles_resolve root "tsc").mapError _).run_bind_ok _
    { files } compiler files (Action.onFiles_mapError_ok _ _ _ _ _ resolved)
  obtain ⟨second, rfl, goes'⟩ := ((Tool.readsFiles_output root compiler _).mapError _).run_bind_ok _
    first output after (Action.onFiles_mapError_ok _ _ _ _ _ printed)
  rw [goes, goes', Action.run_mapError, Action.run_ofExcept]

theorem path_of_showConfig (root config : Path) (options : CompilerOptions)
    (progress middle : Progress)
    (h : (showConfig root config).run host progress = (.ok options, middle)) :
    options.path = config := by
  unfold showConfig at h
  obtain ⟨compiler, _, -, h⟩ := Action.exists_of_run_bind h
  obtain ⟨output, _, -, h⟩ := Action.exists_of_run_bind h
  split at h
  · rename_i read
    cases h
    exact path_of_ofText config _ _ read
  · cases h

end Compiler

end TsWorkshop
