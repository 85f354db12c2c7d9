import TsWorkshop.Text.Utf8
import TsWorkshop.Tool.Lookup

/-!
Running tools in a project's directory.
-/

namespace TsWorkshop

/-- What a program printed, as text. -/
def Output.stdoutText (output : Output) : String := Text.ofBytes output.stdout

/-- What a program said about its failure, less the blanks at the end. -/
def Output.complaint (output : Output) : String := Text.trimEnd (Text.ofBytes output.stderr)

namespace Tool

/-- The failure of a tool that ended in a way that is not accepted. -/
def failure (invocation : Invocation) (args : List String) (output : Output) : ToolError :=
  .failed (invocation.commandLine args) output.status output.complaint

/-- Runs a tool; its output is given whatever its status is. -/
def output (root : Path) (invocation : Invocation) (args : List String) :
    Action ToolError Output := do
  let line := invocation.commandLine args
  Action.report (debug ("$ " ++ line) [("cwd", root)])
  let environment ← Action.asks Host.environment
  (Action.launch
    { program := invocation.program, args := invocation.leading ++ args, cwd := root
      environment }).mapError (.spawn line)

/-- Runs a tool that must succeed. -/
def exec (root : Path) (invocation : Invocation) (args : List String) :
    Action ToolError Output := do
  let output ← Tool.output root invocation args
  if output.status.isSuccess then return output
  else Action.fail (failure invocation args output)

end Tool

end TsWorkshop
