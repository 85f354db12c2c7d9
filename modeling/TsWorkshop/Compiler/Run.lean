import TsWorkshop.Compiler.Diagnostic
import TsWorkshop.Compiler.Options
import TsWorkshop.Tool.Run

/-!
Running the TypeScript compiler: finding its configuration file, asking for the resolved
configuration, and compiling.
-/

namespace TsWorkshop.Compiler

/-- The name of a configuration file. -/
def configName : String := "tsconfig.json"

/-- The configuration file nearest to a directory. -/
def nearestConfig? (fs : FileSystem) (root : Path) : Option Path :=
  Tool.firstFile? fs (root.ancestors.map fun directory => directory.join configName)

/-- The configuration file to use: the configured one, else the nearest. -/
def configPath (fs : FileSystem) (root : Path) (configured : Option Path) :
    Except BuildError Path :=
  match configured with
  | some path =>
    if fs.isFile (root.join path) then .ok (root.join path)
    else .error (.tsconfigNotFound (root.join path))
  | none =>
    match nearestConfig? fs root with
    | some path => .ok path
    | none => .error (.tsconfigNotFound root)

/-- Finds the configuration file and reports it. -/
def findConfig (root : Path) (configured : Option Path) : Action Failure Path := do
  let fs ← Action.files
  match configPath fs root configured with
  | .ok path => do
    Action.report
      { level := .debug, target := "tanuki::ts", message := "Found config file in " ++ path ++ "." }
    return path
  | .error e => Action.fail (.build e)

/-- Asks the compiler for the resolved options of a configuration file. -/
def showConfig (root : Path) (config : Path) : Action Failure CompilerOptions := do
  let compiler ← (Tool.resolve root "tsc").mapError .tool
  let output ← (Tool.exec root compiler ["-p", config, "--showConfig"]).mapError .tool
  match CompilerOptions.ofText config output.stdoutText with
  | .ok options => return options
  | .error complaint => Action.fail (.build (.tsconfigInvalid config complaint.message))

/-- The outcome of a compiler run: its diagnostics, unless it failed without any. -/
def outcome (compiler : Invocation) (args : List String) (output : Output) :
    Except ToolError (List Diagnostic) :=
  let diagnostics := Diagnostic.ofOutput output.stdoutText
  if !output.status.isSuccess && diagnostics.isEmpty then
    .error (Tool.failure compiler args output)
  else .ok diagnostics

/-- Compiles a project. Diagnostics are an outcome, not a failure. -/
def compile (root : Path) (config : Path) : Action Failure (List Diagnostic) := do
  let compiler ← (Tool.resolve root "tsc").mapError .tool
  let args := ["-p", config, "--pretty", "false"]
  let output ← (Tool.output root compiler args).mapError .tool
  (Action.ofExcept (outcome compiler args output)).mapError .tool

end TsWorkshop.Compiler
