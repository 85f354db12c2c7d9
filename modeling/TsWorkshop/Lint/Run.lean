import TsWorkshop.Lint.Report
import TsWorkshop.Process.Arguments
import TsWorkshop.Tool.Run

/-!
Running ESLint on files.
-/

namespace TsWorkshop.Lint

/-- The outcome of a run. Code 1 means that errors were found; any other code but 0 is a crash. -/
def outcome (linter : Invocation) (args : List String) (output : Output) :
    Except ToolError (List LintResult) :=
  if output.status.code? = some 0 ∨ output.status.code? = some 1 then
    (LintResult.reportOfText output.stdoutText).mapError fun complaint =>
      .invalidOutput (linter.commandLine args) complaint.message
  else .error (Tool.failure linter args output)

/-- Lints files below a root. -/
def run (root : Path) (fix : Bool) (extensions files : List String) :
    Action ToolError (List LintResult) := do
  let linter ← Tool.resolve root "eslint"
  let args := lintArgs fix extensions files
  let output ← Tool.output root linter args
  Action.ofExcept (outcome linter args output)

end TsWorkshop.Lint
