import TsWorkshop.Proofs.Build.Output

/-!
The verdict on a compiler run. A build that compiles is refused if the compiler reports an error,
and if the compiler fails without a diagnostic (`run_compile`). A compiler that fails with nothing
worse than a warning passes: `compile_eq_ok_iff` says that there the verdict does not follow the
compiler, and nowhere else.
-/

namespace TsWorkshop.Build

variable (project : Project) (host : Host) (progress : Progress)

/-- The verdict on diagnostics. -/
def judged (diagnostics : List Diagnostic) : Except Failure Unit :=
  if 0 < diagnostics.countP Diagnostic.isError then
    .error (.build (.diagnostics (diagnostics.countP Diagnostic.isError)))
  else .ok ()

theorem judged_eq_ok_iff (diagnostics : List Diagnostic) :
    judged diagnostics = .ok () ↔ ∀ d ∈ diagnostics, d.isError = false := by
  unfold judged
  split
  · rename_i some
    obtain ⟨d, listed, error⟩ := List.countP_pos_iff.mp some
    constructor
    · intro passed
      cases passed
    · intro none
      rw [none d listed] at error
      cases error
  · rename_i none
    constructor
    · intro _ d listed
      by_contra error
      exact none (List.countP_pos_iff.mpr ⟨d, listed, by simpa using error⟩)
    · exact fun _ => rfl

/-- What a build does with diagnostics: it shows them, and judges them. -/
def conclude (diagnostics : List Diagnostic) : Action Failure Unit := do
  let fs ← Action.files
  let colors ← Action.asks Host.colors
  Terminal.blocks (diagnostics.map (diagnosticText fs project.root colors))
  Action.ofExcept (judged diagnostics)

theorem run_conclude (diagnostics : List Diagnostic) :
    ((conclude project diagnostics).run host progress).1 = judged diagnostics := by
  obtain ⟨after, -, shown⟩ := Terminal.run_blocks Failure host
    (diagnostics.map (diagnosticText progress.files project.root host.colors)) progress
  unfold conclude
  rw [Action.run_bind_ok _ _ host progress progress progress.files rfl,
    Action.run_bind_ok _ _ host progress progress host.colors rfl,
    Action.run_bind_ok _ _ host progress after () shown, Action.run_ofExcept]

/-- Diagnostics are the last that a build deals with, whether files are emitted or not. -/
theorem compile_eq (project : Project) :
    compile project = (do
      let config ← Compiler.findConfig project.root project.config.tsconfig
      let options ← Compiler.showConfig project.root config
      if options.noEmit then
        Terminal.status .warning "Will not emit files, will only type-check."
      let diagnostics ← Compiler.compile project.root config
      conclude project diagnostics) := by
  have judges (diagnostics : List Diagnostic) :
      (Action.ofExcept (judged diagnostics) : Action Failure Unit) =
        if 0 < diagnostics.countP Diagnostic.isError then
          Action.fail (.build (.diagnostics (diagnostics.countP Diagnostic.isError)))
        else pure () := by
    unfold judged
    split <;> rfl
  simp only [conclude, judges]
  rfl

/-- From the compiler on a build is judged by what the compiler leaves behind. -/
theorem run_compile_conclude (config : Path) (compiler : Invocation) (output : Output)
    (after : FileSystem)
    (resolved : (Tool.resolve project.root "tsc").onFiles host progress.files =
      (.ok compiler, progress.files))
    (launched : host.launch
      (Tool.command host project.root compiler ["-p", config, "--pretty", "false"])
        progress.files = (.ok output, after)) :
    ((Compiler.compile project.root config >>= conclude project).run host progress).1 =
      ((Compiler.outcome compiler ["-p", config, "--pretty", "false"] output).mapError .tool >>=
        judged) := by
  have reads : Action.ReadsFiles host (Compiler.compile project.root config) :=
    Compiler.readsFiles_compile project.root config
  have compiled := Compiler.onFiles_compile project.root config compiler output progress.files after
    resolved launched
  rcases ends : (Compiler.outcome compiler ["-p", config, "--pretty", "false"] output).mapError
      Failure.tool with e | diagnostics
  · rw [ends] at compiled
    obtain ⟨_, -, fails⟩ := reads.run_bind_error (conclude project) progress e after compiled
    rw [fails]
    rfl
  · rw [ends] at compiled
    obtain ⟨later, -, goes⟩ :=
      reads.run_bind_ok (conclude project) progress diagnostics after compiled
    rw [goes, run_conclude]
    rfl

/-- Once the configuration is known, a build is judged by what the compiler leaves behind, whether
files are emitted or not. -/
theorem run_compile (config : Path) (options : CompilerOptions) (compiler : Invocation)
    (output : Output) (asked after : FileSystem)
    (found : Compiler.configPath progress.files project.root project.config.tsconfig = .ok config)
    (shown : (Compiler.showConfig project.root config).onFiles host progress.files =
      (.ok options, asked))
    (resolved : (Tool.resolve project.root "tsc").onFiles host asked = (.ok compiler, asked))
    (launched : host.launch
      (Tool.command host project.root compiler ["-p", config, "--pretty", "false"]) asked =
        (.ok output, after)) :
    ((compile project).run host progress).1 =
      ((Compiler.outcome compiler ["-p", config, "--pretty", "false"] output).mapError .tool >>=
        judged) := by
  rw [compile_eq]
  obtain ⟨first, same, goes⟩ := (Compiler.readsFiles_findConfig _ _).run_bind_ok _ progress config _
    (Compiler.onFiles_findConfig_ok _ _ _ _ found)
  rw [← same] at shown
  obtain ⟨second, rfl, goes'⟩ :=
    (Compiler.readsFiles_showConfig _ _).run_bind_ok _ first options asked shown
  rw [goes, goes']
  dsimp only
  split
  · obtain ⟨noted, kept, warned⟩ := Terminal.run_status Failure host .warning
      "Will not emit files, will only type-check." second
    rw [Action.run_bind_ok _ _ host second noted () warned]
    rw [← kept] at resolved launched
    exact run_compile_conclude project host noted config compiler output after resolved launched
  · exact run_compile_conclude project host second config compiler output after resolved launched

/-- A build passes exactly if the compiler has reported no error, and has succeeded or reported
anything at all. Errors refuse it with their number, and so does a failure without diagnostics with
what the compiler said about it. The verdict is that of the compiler's status and errors but for a
failed run whose diagnostics are no errors: that one passes. -/
theorem compile_eq_ok_iff (config : Path) (options : CompilerOptions) (compiler : Invocation)
    (output : Output) (asked after : FileSystem)
    (found : Compiler.configPath progress.files project.root project.config.tsconfig = .ok config)
    (shown : (Compiler.showConfig project.root config).onFiles host progress.files =
      (.ok options, asked))
    (resolved : (Tool.resolve project.root "tsc").onFiles host asked = (.ok compiler, asked))
    (launched : host.launch
      (Tool.command host project.root compiler ["-p", config, "--pretty", "false"]) asked =
        (.ok output, after)) :
    let diagnostics := Diagnostic.ofOutput output.stdoutText
    let result := ((compile project).run host progress).1
    (result = .ok () ↔
      (output.status.isSuccess = true ∨ diagnostics ≠ []) ∧
        ∀ d ∈ diagnostics, d.isError = false) ∧
    ((∃ d ∈ diagnostics, d.isError = true) →
      result = .error (.build (.diagnostics (diagnostics.countP Diagnostic.isError)))) ∧
    (output.status.isSuccess = false → diagnostics = [] →
      result =
        .error (.tool (Tool.failure compiler ["-p", config, "--pretty", "false"] output))) ∧
    ((result = .ok () ↔
        output.status.isSuccess = true ∧ ∀ d ∈ diagnostics, d.isError = false) ↔
      ¬ (output.status.isSuccess = false ∧ diagnostics ≠ [] ∧
        ∀ d ∈ diagnostics, d.isError = false)) := by
  intro diagnostics result
  have judgement : result = _ := run_compile project host progress config options compiler output
    asked after found shown resolved launched
  -- a failure without diagnostics is the only one that the compiler's outcome knows
  have outcome : Compiler.outcome compiler ["-p", config, "--pretty", "false"] output =
      if output.status.isSuccess = false ∧ diagnostics = [] then
        .error (Tool.failure compiler ["-p", config, "--pretty", "false"] output)
      else .ok diagnostics := by
    simp [Compiler.outcome, diagnostics]
  rw [outcome] at judgement
  have crashes (failed : output.status.isSuccess = false) (silent : diagnostics = []) :
      result = .error
        (.tool (Tool.failure compiler ["-p", config, "--pretty", "false"] output)) := by
    rw [judgement, if_pos ⟨failed, silent⟩]
    rfl
  have judges (ended : output.status.isSuccess = true ∨ diagnostics ≠ []) :
      result = judged diagnostics := by
    have other : ¬ (output.status.isSuccess = false ∧ diagnostics = []) := by
      rintro ⟨failed, silent⟩
      simp [failed, silent] at ended
    rw [judgement, if_neg other]
    rfl
  have passes : result = .ok () ↔
      (output.status.isSuccess = true ∨ diagnostics ≠ []) ∧
        ∀ d ∈ diagnostics, d.isError = false := by
    by_cases ended : output.status.isSuccess = true ∨ diagnostics ≠ []
    · rw [judges ended, judged_eq_ok_iff, and_iff_right ended]
    · have failed : output.status.isSuccess = false ∧ diagnostics = [] := by simpa using ended
      rw [crashes failed.1 failed.2]
      constructor
      · intro accepted
        cases accepted
      · exact fun h => absurd h.1 ended
  refine ⟨passes, ?_, crashes, ?_⟩
  · rintro ⟨d, listed, error⟩
    have some : 0 < diagnostics.countP Diagnostic.isError :=
      List.countP_pos_iff.mpr ⟨d, listed, error⟩
    rw [judges (Or.inr (List.ne_nil_of_mem listed)), judged, if_pos some]
  · rw [passes]
    cases output.status.isSuccess <;> by_cases silent : diagnostics = [] <;> simp [silent]

/-- A host whose compiler ends a compilation with the given code after it has printed a text. -/
def compiling (text : String) (code : Nat) : Host :=
  { cwd := "/work"
    launch := fun l files =>
      if "--showConfig" ∈ l.args then
        (.ok { status := .exited 0, stdout := "\x7b\x7d".toUTF8, stderr := .empty }, files)
      else (.ok { status := .exited code, stdout := text.toUTF8, stderr := .empty }, files)
    now := ⟨0, 0⟩ }

/-- An error beside a warning refuses a build. -/
theorem compile_eq_ok_iff_errors :
    let printed := "a.ts(1,1): warning TS1: w\na.ts(2,1): error TS2: e\n"
    let output : Output := { status := .exited 2, stdout := printed.toUTF8, stderr := .empty }
    ((Compiler.showConfig library.root "/work/tsconfig.json").onFiles (compiling printed 2)
      libraryFiles).1 = .ok ⟨"/work/tsconfig.json", none, false⟩ ∧
    (Diagnostic.ofOutput output.stdoutText).countP Diagnostic.isError = 1 ∧
    ((compile library).run (compiling printed 2) { files := libraryFiles }).1 =
      .error (.build (.diagnostics 1)) := by
  intro printed output
  have shows : Compiler.OnlyShows (compiling printed 2) := by
    intro l files asked
    simp [compiling, asked]
  have shown : ((Compiler.showConfig library.root "/work/tsconfig.json").onFiles
      (compiling printed 2) libraryFiles).1 = .ok ⟨"/work/tsconfig.json", none, false⟩ := by
    decide +kernel
  have resolved : ((Tool.resolve library.root "tsc").onFiles (compiling printed 2)
      libraryFiles).1 = .ok (.direct "/work/node_modules/.bin/tsc" "tsc") := by
    decide +kernel
  have errors : (Diagnostic.ofOutput output.stdoutText).countP Diagnostic.isError = 1 := by
    decide +kernel
  obtain ⟨-, refused, -⟩ := compile_eq_ok_iff library (compiling printed 2)
    { files := libraryFiles } "/work/tsconfig.json" ⟨"/work/tsconfig.json", none, false⟩
    (.direct "/work/node_modules/.bin/tsc" "tsc") output libraryFiles libraryFiles
    (by decide +kernel)
    (Prod.ext shown (Compiler.keepsFiles_showConfig shows _ _ { files := libraryFiles }))
    (Prod.ext resolved (Tool.keepsFiles_resolve _ _ { files := libraryFiles }))
    rfl
  refine ⟨shown, errors, ?_⟩
  rw [refused (List.countP_pos_iff.mp (errors ▸ Nat.one_pos)), errors]

/-- A compiler that fails behind a warning passes for a successful one. -/
theorem compile_passes_failure :
    let printed := "a.ts(1,1): warning TS1: w\n"
    let output : Output := { status := .exited 2, stdout := printed.toUTF8, stderr := .empty }
    (∀ files, (compiling printed 2).launch (Tool.command (compiling printed 2) library.root
      (.direct "/work/node_modules/.bin/tsc" "tsc")
      ["-p", "/work/tsconfig.json", "--pretty", "false"]) files =
        (.ok output, files)) ∧
    output.status.isSuccess = false ∧
    ((compile library).run (compiling printed 2) { files := libraryFiles }).1 = .ok () := by
  refine ⟨fun _ => rfl, ?_, ?_⟩ <;> decide +kernel

end TsWorkshop.Build
