import TsWorkshop.Build.Run
import TsWorkshop.CommandLine.Basic
import TsWorkshop.Lint.Run

/-!
Running a command line: the project is loaded, and then built, linted or documented.
-/

namespace TsWorkshop

namespace Lint

/-- The texts of an event's values. -/
def shownTexts (texts : List String) : String :=
  "[" ++ Text.join ", " (texts.map Text.shown) ++ "]"

/-- The report of a run that starts. -/
def startReport (files : List String) (fix : Bool) : Event :=
  { level := .debug, target := "tanuki::eslint", message := "linting"
    fields := [("files", shownTexts files), ("fix", if fix then "true" else "false")] }

/-- The totals of a report, unless the program stops at a sum. -/
def totals (results : List LintResult) : Action Halt LintSummary := do
  match LintSummary.ofResults (← Action.asks Host.overflow) results with
  | some summary => return summary
  | none => Action.fail .overflow

/-- Lints a project as a command line asks for. Everything is shown; errors are a failure. -/
def execute (args : LintArgs) (project : Project) : Action Halt Unit := do
  let settings := project.config.eslint
  Action.report (startReport args.files settings.fix)
  let results ← (Lint.run project.root settings.fix settings.extensions args.files).mapError
    fun e => .failure (.tool e)
  let summary ← totals results
  let colors ← Action.asks Host.colors
  let mark : Terminal.Mark :=
    if 0 < summary.errors ∨ 0 < summary.warnings then .warning else .success
  Terminal.status mark summary.line
  Terminal.blocks (results.flatMap (LintResult.blocks colors))
  if 0 < summary.errors then Action.fail (.failure (.lintFailed summary.errors)) else return ()

end Lint

namespace DocsArgs

/-- Documents a project as a command line asks for: from a reflection that was named, or by
TypeDoc. -/
def execute (args : DocsArgs) (project : Project) : Action Failure Unit := do
  let path ← (match args.reflection with
    | some reflection => project.document (Reflection.fromFile (project.resolve reflection))
    | none => project.documentByTool)
  Terminal.status .success ("Generated documentation in " ++ path ++ "!")

end DocsArgs

namespace Command

/-- Runs a command for a project. -/
def execute (command : Command) (project : Project) : Action Halt Unit :=
  match command with
  | build args => (Build.run args project).mapError .failure
  | lint args => Lint.execute args project
  | docs args => (args.execute project).mapError .failure

end Command

namespace CommandLine

/-- The report of a project that was loaded. -/
def loadedReport (project : Project) : Event :=
  let config := match project.configFile with
    | some path => "Some(" ++ Text.shown path ++ ")"
    | none => "None"
  { level := .debug, target := "tanuki::cli", message := "project loaded"
    fields := [("root", project.root), ("config", config)] }

/-- Loads the project that a command line is about. -/
def loadProject (c : CommandLine) : Action Failure Project := do
  let fs ← Action.files
  let (events, result) ← Action.asks fun host =>
    let root := match c.cwd with
      | some cwd => host.cwd.join cwd
      | none => host.cwd
    Project.load fs host.cwd host.environment root c.config c.command.overrides
  Action.reportAll events
  (Action.ofExcept result).mapError .config

/-- Runs a command line. -/
def run (c : CommandLine) : Action Halt Unit := do
  let project ← c.loadProject.mapError .failure
  Action.report (loadedReport project)
  c.command.execute project

end CommandLine

end TsWorkshop
