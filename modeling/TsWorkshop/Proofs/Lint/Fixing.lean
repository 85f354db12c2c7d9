import TsWorkshop.Proofs.CommandLine.Reading
import TsWorkshop.Proofs.Config.Imposed
import TsWorkshop.Proofs.Lint.Run
import TsWorkshop.Proofs.Text.Pieces
import TsWorkshop.Proofs.Tool.Started

/-!
Whether the linter is asked to fix what it finds. The only program that a lint run starts is the
linter, and what it is given follows from the configuration, on which the command line has the last
word. The files of the command line stand among the linter's arguments as they are, so a file that
is spelled like the option asks for fixing as well (`handed_fix_iff`).
-/

namespace TsWorkshop

variable {host : Host}

namespace CommandLine

variable (c : CommandLine)

theorem startsNothing_loadProject : Action.StartsNothing host c.loadProject := by
  refine Action.StartsNothing.bind (fun _ _ => rfl) fun fs => ?_
  refine Action.StartsNothing.bind (fun _ _ => rfl) fun ⟨events, result⟩ => ?_
  exact Action.StartsNothing.bind (fun _ _ => rfl) fun _ _ _ => rfl

theorem keepsFiles_loadProject : Action.KeepsFiles host c.loadProject := by
  refine Action.keepsFiles_files.bind fun fs => ?_
  refine (Action.keepsFiles_asks _).bind fun ⟨events, result⟩ => ?_
  exact Action.KeepsFiles.bind (fun _ => rfl) fun _ => (Action.keepsFiles_ofExcept _).mapError _

/-- A project that a command line loads has the settings that its command overrides. -/
theorem exists_load (progress : Progress) (project : Project)
    (loaded : (c.loadProject.run host progress).1 = .ok project) :
    ∃ root events, Project.load progress.files host.cwd host.environment root c.config
      c.command.overrides = (events, .ok project) := by
  obtain ⟨after, ran⟩ := Action.exists_of_run_eq_ok loaded
  unfold loadProject at ran
  obtain ⟨fs, first, files, ran⟩ := Action.exists_of_run_bind ran
  cases files
  obtain ⟨⟨events, result⟩, second, asked, ran⟩ := Action.exists_of_run_bind ran
  obtain ⟨_, third, -, ran⟩ := Action.exists_of_run_bind ran
  rw [Action.run_mapError, Action.run_ofExcept] at ran
  obtain rfl := (mapError_eq_ok_iff _ _ _).mp (Prod.mk.inj ran).1
  exact ⟨_, events, Except.ok.inj (Prod.mk.inj asked).1⟩

end CommandLine

namespace Terminal

theorem startsNothing_blocks (ε : Type) (texts : List String) :
    Action.StartsNothing host (blocks texts : Action ε Unit) := by
  induction texts with
  | nil => exact fun _ _ => rfl
  | cons text rest ih => exact Action.StartsNothing.bind (fun _ _ => rfl) fun _ => ih

end Terminal

namespace Lint

/-- A lint run awaits the linter. -/
theorem awaits_run (progress : Progress) (root : Path) (fix : Bool)
    (extensions files : List String) (linter : Invocation)
    (resolved : ((Tool.resolve root "eslint").onFiles host progress.files).1 = .ok linter) :
    Action.Awaits host progress (Tool.command host root linter (lintArgs fix extensions files))
      (Lint.run root fix extensions files) := by
  have ran : ((Tool.resolve root "eslint").run host progress).1 = .ok linter := by
    rw [← resolved, ← Tool.readsFiles_resolve root "eslint" progress]
  unfold Lint.run
  refine Action.Awaits.after ?_ (Tool.startsNothing_resolve root "eslint") (Prod.ext ran rfl)
    (Tool.keepsFiles_resolve root "eslint" progress)
  exact (Tool.awaits_output _ root linter _).bind fun _ _ _ => rfl

theorem startsNothing_totals (results : List LintResult) :
    Action.StartsNothing host (totals results) := by
  refine Action.StartsNothing.bind (fun _ _ => rfl) fun overflow => ?_
  split <;> exact fun _ _ => rfl

/-- Linting awaits the linter, and nothing else. -/
theorem awaits_execute (args : LintArgs) (project : Project) (progress : Progress)
    (linter : Invocation)
    (resolved : ((Tool.resolve project.root "eslint").onFiles host progress.files).1 = .ok linter) :
    Action.Awaits host progress (Tool.command host project.root linter (lintArgs
      project.config.eslint.fix project.config.eslint.extensions args.files))
      (execute args project) := by
  have tool : Function.Injective fun e => Halt.failure (.tool e) := fun _ _ same =>
    Failure.tool.inj (Halt.failure.inj same)
  let started : Progress :=
    { progress with
      events := progress.events ++ [startReport args.files project.config.eslint.fix] }
  have linted := (awaits_run started project.root project.config.eslint.fix
    project.config.eslint.extensions args.files linter resolved).mapError _ tool
  unfold execute
  refine Action.Awaits.after ?_ (fun _ _ => rfl) (Action.run_report _ host progress) rfl
  refine linted.bind fun results => ?_
  refine (startsNothing_totals results).bind fun summary => ?_
  refine Action.StartsNothing.bind (fun _ _ => rfl) fun colors => ?_
  refine Action.StartsNothing.bind (fun _ _ => rfl) fun _ => ?_
  refine (Terminal.startsNothing_blocks Halt _).bind fun _ => ?_
  split <;> exact fun _ _ => rfl

/-- A word without the separator is joined from itself alone. -/
theorem join_eq_iff (pieces : List String) (some : pieces ≠ []) (word : String)
    (plain : ',' ∉ word.toList) : Text.join "," pieces = word ↔ pieces = [word] := by
  match pieces with
  | [] => exact absurd rfl some
  | [piece] => simp [Text.join]
  | piece :: next :: rest =>
    refine iff_of_false (fun same => plain ?_) (by simp)
    rw [← same, Text.join, String.toList_append, String.toList_append]
    simp

theorem mem_lintArgs_iff (fix : Bool) (extensions files : List String) :
    "--fix" ∈ lintArgs fix extensions files ↔
      fix = true ∨ "--fix" ∈ files ∨ extensions = ["--fix"] := by
  have listed : "--fix" ∈ (if extensions.isEmpty then [] else
      ["--ext", Text.join "," extensions]) ↔ extensions = ["--fix"] := by
    cases extensions with
    | nil => simp
    | cons first rest =>
      have joined := join_eq_iff (first :: rest) (by simp) "--fix" (by decide)
      simp [eq_comm, ← joined]
  have asked : "--fix" ∈ (if fix then ["--fix"] else []) ↔ fix = true := by
    cases fix <;> simp
  have format : "--fix" ∉ ["--format", "json"] := by decide
  rw [lintArgs, List.mem_append, List.mem_append, List.mem_append, listed, asked,
    or_iff_right format]
  tauto

/-- A command line that lints a project awaits the linter, and nothing else. -/
theorem awaits_commandLine (progress : Progress) (c : CommandLine) (lint : LintArgs)
    (project : Project) (linter : Invocation) (command : c.command = .lint lint)
    (loaded : (c.loadProject.run host progress).1 = .ok project)
    (resolved : ((Tool.resolve project.root "eslint").onFiles host progress.files).1 = .ok linter) :
    Action.Awaits host progress (Tool.command host project.root linter (lintArgs
      project.config.eslint.fix project.config.eslint.extensions lint.files)) c.run := by
  have kept : (c.loadProject.run host progress).2.files = progress.files :=
    c.keepsFiles_loadProject progress
  have ran : ((c.loadProject.mapError Halt.failure).run host progress) =
      (.ok project, (c.loadProject.run host progress).2) := by
    rw [Action.run_mapError, loaded]
    rfl
  unfold CommandLine.run
  refine Action.Awaits.after ?_ (c.startsNothing_loadProject.mapError _) ran kept
  refine Action.Awaits.after ?_ (fun _ _ => rfl) (Action.run_report _ host _) rfl
  rw [command]
  refine awaits_execute lint project _ linter ?_
  rw [kept]
  exact resolved

/-- A lint run starts the linter and no other program, which is asked to fix what it finds if the
configuration says so, and if one of the files or the extensions is spelled like the option. Where
the command line speaks about fixing, so does the configuration. -/
theorem handed_fix_iff (progress : Progress) (path : String) (args : List String) (c : CommandLine)
    (lint : LintArgs) (project : Project) (linter : Invocation)
    (accepted : CommandLine.ofArgv (path :: args) = .ok c) (command : c.command = .lint lint)
    (loaded : (c.loadProject.run host progress).1 = .ok project)
    (resolved : ((Tool.resolve project.root "eslint").onFiles host progress.files).1 = .ok linter) :
    let settings := project.config.eslint
    let l := Tool.command host project.root linter
      (lintArgs settings.fix settings.extensions lint.files)
    (∀ other, c.run.Starts host progress other ↔ other = l) ∧
      ("--fix" ∈ l.args ↔ settings.fix = true ∨ "--fix" ∈ CommandLine.wordsBehind args ∨
        settings.extensions = ["--fix"]) ∧
      ("--fix" ∈ CommandLine.wordsBefore args → settings.fix = true) ∧
      ("--no-fix" ∈ CommandLine.wordsBefore args → settings.fix = false) := by
  intro settings l
  obtain ⟨fix, noFix, either, files⟩ := CommandLine.lint_of_parse accepted command
  obtain ⟨root, events, load⟩ := CommandLine.exists_load c progress project loaded
  have imposed (said : Bool) (h : lint.fixOverride = some said) : settings.fix = said := by
    have overrides : c.command.overrides = { eslintFix := some said } := by
      rw [command, Command.overrides, h]
    rw [overrides] at load
    exact Config.fix_of_load _ _ _ _ _ said events project load
  have awaits := awaits_commandLine progress c lint project linter command loaded resolved
  refine ⟨awaits.starts_iff, ?_, fun given => imposed true ?_, fun given => imposed false ?_⟩
  · have behind : "--fix" ∉ linter.leading := by
      rcases Tool.leading_of_resolve project.root "eslint" _ linter resolved with none | one
      · simp [none]
      · simp [one]
    have words : l.args =
        linter.leading ++ lintArgs settings.fix settings.extensions lint.files := rfl
    rw [words, List.mem_append, or_iff_right behind, mem_lintArgs_iff, files _ ⟨'-', _, rfl⟩]
  · rw [LintArgs.fixOverride, if_pos (fix.mpr given)]
  · have off := noFix.mpr given
    rw [LintArgs.fixOverride, if_neg fun on => either ⟨on, off⟩, if_pos off]

/-- What the words `lint --no-fix src` ask for. -/
def reportOnly : CommandLine := { command := .lint { files := ["src"], noFix := true } }

/-- What the words `lint --no-fix -- --fix` ask for. -/
def reportOption : CommandLine := { command := .lint { files := ["--fix"], noFix := true } }

/-- A project in `/work` without a configuration of its own, that must not be changed. -/
def unfixed : Project :=
  { root := "/work", config := { eslint.fix := false }, configFile := none }

/-- The linter of the project is asked for a report alone. -/
theorem handed_fix_iff_reportOnly :
    CommandLine.ofArgv ["tanuki", "lint", "--no-fix", "src"] = .ok reportOnly ∧
      ∃ l : Launch, l.program = "/work/node_modules/.bin/eslint" ∧
        (∀ other, reportOnly.run.Starts (reporting "[]") { files := checkedFiles } other ↔
          other = l) ∧ "--fix" ∉ l.args := by
  have accepted : CommandLine.ofArgv ["tanuki", "lint", "--no-fix", "src"] = .ok reportOnly := by
    decide +kernel
  have loaded : (reportOnly.loadProject.run (reporting "[]") { files := checkedFiles }).1 =
      .ok unfixed := by
    decide +kernel
  have resolved : ((Tool.resolve unfixed.root "eslint").onFiles (reporting "[]")
      checkedFiles).1 = .ok (.direct "/work/node_modules/.bin/eslint" "eslint") := by
    decide +kernel
  obtain ⟨starts, handed, -, -⟩ := handed_fix_iff { files := checkedFiles } "tanuki"
    ["lint", "--no-fix", "src"] reportOnly _ unfixed _ accepted rfl loaded resolved
  exact ⟨accepted, _, rfl, starts, fun asked => absurd (handed.mp asked) (by decide +kernel)⟩

/-- A command line that asks for a report alone, of a file that is spelled like the option: the
linter is started with the option. -/
theorem noFix_overruled :
    CommandLine.ofArgv ["tanuki", "lint", "--no-fix", "--", "--fix"] = .ok reportOption ∧
      ∃ l : Launch, reportOption.run.Starts (reporting "[]") { files := checkedFiles } l ∧
        l.program = "/work/node_modules/.bin/eslint" ∧ "--fix" ∈ l.args := by
  have loaded : (reportOption.loadProject.run (reporting "[]") { files := checkedFiles }).1 =
      .ok unfixed := by
    decide +kernel
  have resolved : ((Tool.resolve unfixed.root "eslint").onFiles (reporting "[]")
      checkedFiles).1 = .ok (.direct "/work/node_modules/.bin/eslint" "eslint") := by
    decide +kernel
  have awaits := awaits_commandLine { files := checkedFiles } reportOption _ unfixed _ rfl loaded
    resolved
  exact ⟨by decide +kernel, _, (awaits.starts_iff _).mpr rfl, rfl, by decide +kernel⟩

end Lint

end TsWorkshop
