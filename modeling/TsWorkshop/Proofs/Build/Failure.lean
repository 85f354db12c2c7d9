import TsWorkshop.Proofs.Build.Output

/-!
Library builds that come to nothing. The output of an older build is cleaned away in the middle of
a build. `makeLibrary_keeps_output` says that all that a build needs to know is known by then: as
long as the compiler only shows its options (`Compiler.OnlyShows`), a build that fails to learn it
fails with every file as it was, whatever the tools would do afterwards.
-/

namespace TsWorkshop.Build

variable (project : Project) (host : Host) (before : FileSystem)

/-- What a library build finds out about its compiler configuration. -/
structure Configured (options : CompilerOptions) : Prop where
  found : Compiler.configPath before project.root project.config.tsconfig = .ok options.path
  shown : ((Compiler.showConfig project.root options.path).onFiles host before).1 = .ok options

/-- The reasons to stop before the output directory is touched, each with its failure. -/
inductive Stopped : Failure → Prop
  | unconfigured (e : BuildError)
      (missing : Compiler.configPath before project.root project.config.tsconfig = .error e) :
      Stopped (.build e)
  | unshown (config : Path) (e : Failure)
      (found : Compiler.configPath before project.root project.config.tsconfig = .ok config)
      (failed : ((Compiler.showConfig project.root config).onFiles host before).1 = .error e) :
      Stopped e
  | entryMissing (options : CompilerOptions) (configured : Configured project host before options)
      (missing : before.pathExists project.entry = false) :
      Stopped (.build (.entryNotFound project.entry))
  | entryNoFile (options : CompilerOptions) (configured : Configured project host before options)
      (there : before.pathExists project.entry = true)
      (other : before.isFile project.entry = false) :
      Stopped (.invalidArgument ("Entry point is not a file: " ++ project.entry))
  | outputNoDirectory (options : CompilerOptions)
      (configured : Configured project host before options)
      (file : before.isFile project.entry = true)
      (there : before.pathExists (options.buildDir project.root) = true)
      (other : before.isDirectory (options.buildDir project.root) = false) :
      Stopped (.invalidArgument
        ("Output path exists but is not a directory: " ++ options.buildDir project.root))

/-- What a build needs to know before it touches the output directory. -/
structure Ready (options : CompilerOptions) : Prop where
  configured : Configured project host before options
  file : before.isFile project.entry = true
  free : before.pathExists (options.buildDir project.root) = true →
    before.isDirectory (options.buildDir project.root) = true

/-! ### Reasons to stop -/

/-- There is a reason to stop, or a build knows all that it needs. -/
theorem stopped_or_ready :
    (∃ e, Stopped project host before e) ∨ ∃ options, Ready project host before options := by
  -- in the order in which a build asks
  rcases found : Compiler.configPath before project.root project.config.tsconfig with e | config
  · exact Or.inl ⟨_, .unconfigured e found⟩
  rcases shown : ((Compiler.showConfig project.root config).onFiles host before).1 with e | options
  · exact Or.inl ⟨e, .unshown config e found shown⟩
  obtain rfl : options.path = config :=
    Compiler.path_of_showConfig project.root config options { files := before } _
      (Prod.ext shown rfl)
  have configured : Configured project host before options := ⟨found, shown⟩
  by_cases file : before.isFile project.entry = true
  · by_cases taken : before.pathExists (options.buildDir project.root) = true ∧
        before.isDirectory (options.buildDir project.root) = false
    · exact Or.inl ⟨_, .outputNoDirectory options configured file taken.1 taken.2⟩
    · exact Or.inr ⟨options, configured, file, by simpa using taken⟩
  · have other : before.isFile project.entry = false := by simpa using file
    by_cases there : before.pathExists project.entry = true
    · exact Or.inl ⟨_, .entryNoFile options configured there other⟩
    · exact Or.inl ⟨_, .entryMissing options configured (by simpa using there)⟩

/-! ### Stopping -/

/-- What a build does with the output directory that it was shown. -/
def clean (directory : Path) : Action Failure Path := do
  Action.ofExcept (checkEntry (← Action.files) project.entry)
  Action.alter fun fs => cleanOutput fs directory
  return directory

/-- A build that has found its configuration asks for the options. -/
theorem run_prepare_found (config : Path) (progress : Progress)
    (found : Compiler.configPath progress.files project.root project.config.tsconfig =
      .ok config) :
    ∃ middle, middle.files = progress.files ∧ (prepare project).run host progress =
      (Compiler.showConfig project.root config >>= fun options =>
        clean project (options.buildDir project.root)).run host middle := by
  exact (Compiler.readsFiles_findConfig _ _).run_bind_ok _ progress config _
    (Compiler.onFiles_findConfig_ok _ _ _ _ found)

/-- A compiler that only shows its options leaves an answer and the files. -/
theorem onFiles_showConfig_of_fst (shows : Compiler.OnlyShows host) (config : Path)
    (files : FileSystem) (answer : Except Failure CompilerOptions)
    (answered : ((Compiler.showConfig project.root config).onFiles host files).1 = answer) :
    (Compiler.showConfig project.root config).onFiles host files = (answer, files) :=
  Prod.ext answered (Compiler.keepsFiles_showConfig shows project.root config { files })

/-- A build with a known configuration goes on to the output directory with the same files. -/
theorem Configured.run_prepare {options : CompilerOptions}
    (configured : Configured project host before options) (shows : Compiler.OnlyShows host)
    (progress : Progress) (start : progress.files = before) :
    ∃ middle, middle.files = before ∧ (prepare project).run host progress =
      (clean project (options.buildDir project.root)).run host middle := by
  subst start
  obtain ⟨first, same, asks⟩ := run_prepare_found project host _ progress configured.found
  have shown := onFiles_showConfig_of_fst project host shows _ _ _ configured.shown
  rw [← same] at shown
  obtain ⟨second, same', goes⟩ := (Compiler.readsFiles_showConfig _ _).run_bind_ok
    (fun options => clean project (options.buildDir project.root)) first options _ shown
  exact ⟨second, same'.trans same, by rw [asks, goes]⟩

/-- An output directory is not touched if the entry or the directory itself is refused. -/
theorem run_clean_refused (directory : Path) (progress : Progress) (e : Failure)
    (refused : checkEntry progress.files project.entry = .error e ∨
      checkEntry progress.files project.entry = .ok () ∧
        cleanOutput progress.files directory = (.error e, progress.files)) :
    (clean project directory).run host progress = (.error e, progress) := by
  unfold clean
  rw [Action.run_bind_ok _ _ host progress progress progress.files rfl]
  rcases refused with refused | ⟨checked, refused⟩
  · exact Action.run_bind_error _ _ host progress progress e (by rw [refused, Action.run_ofExcept])
  · rw [Action.run_bind_ok _ _ host progress progress () (by rw [checked, Action.run_ofExcept])]
    exact Action.run_bind_error _ _ host progress progress e (by rw [Action.run_alter, refused])

/-- A build with a reason to stop does so, with its failure and with all files as they were. -/
theorem Stopped.run_prepare {e : Failure} (stopped : Stopped project host before e)
    (shows : Compiler.OnlyShows host) (progress : Progress) (start : progress.files = before) :
    ∃ after, after.files = before ∧ (prepare project).run host progress = (.error e, after) := by
  cases stopped with
  | unconfigured e missing =>
    subst start
    have located : (Compiler.findConfig project.root project.config.tsconfig).onFiles host
        progress.files = (.error (.build e), progress.files) := by
      rw [Compiler.onFiles_findConfig, missing]
      rfl
    exact (Compiler.readsFiles_findConfig _ _).run_bind_error _ progress _ _ located
  | unshown config e found failed =>
    subst start
    obtain ⟨first, same, asks⟩ := run_prepare_found project host config progress found
    have shown := onFiles_showConfig_of_fst project host shows _ _ _ failed
    rw [← same] at shown
    obtain ⟨after, kept, fails⟩ := (Compiler.readsFiles_showConfig _ _).run_bind_error
      (fun options => clean project (options.buildDir project.root)) first e _ shown
    exact ⟨after, kept.trans same, by rw [asks, fails]⟩
  | entryMissing options configured missing =>
    obtain ⟨middle, same, goes⟩ := configured.run_prepare project host before shows progress start
    have refused : checkEntry middle.files project.entry =
        .error (.build (.entryNotFound project.entry)) := by
      simp [checkEntry, same, missing]
    exact ⟨middle, same, by rw [goes, run_clean_refused _ _ _ _ _ (Or.inl refused)]⟩
  | entryNoFile options configured there other =>
    obtain ⟨middle, same, goes⟩ := configured.run_prepare project host before shows progress start
    have refused : checkEntry middle.files project.entry =
        .error (.invalidArgument ("Entry point is not a file: " ++ project.entry)) := by
      simp [checkEntry, same, there, other]
    exact ⟨middle, same, by rw [goes, run_clean_refused _ _ _ _ _ (Or.inl refused)]⟩
  | outputNoDirectory options configured file there other =>
    obtain ⟨middle, same, goes⟩ := configured.run_prepare project host before shows progress start
    have checked : checkEntry middle.files project.entry = .ok () := by
      simp [checkEntry, same, file, FileSystem.pathExists_of_isFile]
    have refused : cleanOutput middle.files (options.buildDir project.root) =
        (.error (.invalidArgument ("Output path exists but is not a directory: " ++
          options.buildDir project.root)), middle.files) := by
      simp [cleanOutput, same, there, other]
    exact ⟨middle, same, by rw [goes, run_clean_refused _ _ _ _ _ (Or.inr ⟨checked, refused⟩)]⟩

/-- A library build whose compiler only shows its options fails with every file as it was if there
is no configuration file, if its options are not shown or cannot be read, or if the module to bundle
is missing or is no file. It also does so, with this failure or an earlier one, whenever something
other than a directory stands in the place of the output. Only a build that has come past all this
succeeds or changes a file. -/
theorem makeLibrary_keeps_output (plan : LibraryPlan) (progress : Progress)
    (shows : Compiler.OnlyShows host) :
    let before := progress.files
    let run := (makeLibrary project plan).run host progress
    (∀ e, Stopped project host before e → run.1 = .error e ∧ run.2.files = before) ∧
    (∀ options, Configured project host before options →
      before.pathExists (options.buildDir project.root) = true →
      before.isDirectory (options.buildDir project.root) = false →
      (∃ e, run.1 = .error e) ∧ run.2.files = before) ∧
    ((run.1 = .ok () ∨ run.2.files ≠ before) → ∃ options, Ready project host before options) := by
  intro before run
  have stops (e : Failure) (stopped : Stopped project host before e) :
      run.1 = .error e ∧ run.2.files = before := by
    let started : Progress :=
      { progress with
        events := progress.events ++ [info "Compiling artifacts with \x60esbuild\x60!"] }
    obtain ⟨after, kept, fails⟩ := stopped.run_prepare project host before shows started rfl
    have ends : run = (.error e, after) :=
      (Action.run_bind_ok _ _ host progress started () rfl).trans
        (Action.run_bind_error _ _ host started after e fails)
    rw [ends]
    exact ⟨rfl, kept⟩
  refine ⟨stops, ?_, ?_⟩
  · intro options configured there other
    -- an earlier failure may hide the occupied place, but nothing can make the build ready
    rcases stopped_or_ready project host before with ⟨e, stopped⟩ | ⟨options', ready⟩
    · obtain ⟨failed, kept⟩ := stops e stopped
      exact ⟨⟨e, failed⟩, kept⟩
    · have same : options' = options := by
        have path : options'.path = options.path :=
          Except.ok.inj (ready.configured.found.symm.trans configured.found)
        have shown := ready.configured.shown
        rw [path] at shown
        exact Except.ok.inj (shown.symm.trans configured.shown)
      rw [same] at ready
      rw [ready.free there] at other
      cases other
  · intro changed
    rcases stopped_or_ready project host before with ⟨e, stopped⟩ | ready
    · obtain ⟨failed, kept⟩ := stops e stopped
      rcases changed with succeeded | changed
      · rw [failed] at succeeded
        cases succeeded
      · exact absurd kept changed
    · exact ready

/-- A host whose compiler shows an output directory. Its other programs remove all files. -/
def wiping (outDir : String) : Host :=
  { showing outDir with
    launch := fun l files =>
      if "--showConfig" ∈ l.args then (showing outDir).launch l files
      else (.ok { status := .exited 0, stdout := .empty, stderr := .empty }, { entries := [] }) }

/-- A file in the place of the output stops a build before the first program that removes files. -/
theorem makeLibrary_keeps_output_occupied :
    Compiler.OnlyShows (wiping "./tsconfig.json") ∧
      ((makeLibrary library ⟨true, false, true⟩).run (wiping "./tsconfig.json")
        { files := libraryFiles }).1 = .error (.invalidArgument
          "Output path exists but is not a directory: /work/./tsconfig.json") ∧
      ((makeLibrary library ⟨true, false, true⟩).run (wiping "./tsconfig.json")
        { files := libraryFiles }).2.files = libraryFiles := by
  have shows : Compiler.OnlyShows (wiping "./tsconfig.json") := by
    intro l files asked
    simp [wiping, showing, asked]
  let options : CompilerOptions := ⟨"/work/tsconfig.json", some "./tsconfig.json", false⟩
  have configured : Configured library (wiping "./tsconfig.json") libraryFiles options := by
    constructor <;> decide +kernel
  have text : "Output path exists but is not a directory: " ++ options.buildDir library.root =
      "Output path exists but is not a directory: /work/./tsconfig.json" := by
    decide +kernel
  have stopped := Stopped.outputNoDirectory options configured (by decide +kernel)
    (by decide +kernel) (by decide +kernel)
  rw [text] at stopped
  obtain ⟨stops, -⟩ := makeLibrary_keeps_output library (wiping "./tsconfig.json")
    ⟨true, false, true⟩ { files := libraryFiles } shows
  obtain ⟨failed, kept⟩ := stops _ stopped
  exact ⟨shows, failed, kept⟩

end TsWorkshop.Build
