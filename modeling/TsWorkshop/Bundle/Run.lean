import TsWorkshop.Bundle.Wrapper
import TsWorkshop.Process.Arguments
import TsWorkshop.Tool.Run

/-!
Making a bundle, and the ES module that wraps it. The wrapper exports what the loaded bundle
exports, which is found out by loading it.
-/

namespace TsWorkshop.Bundle

def target : String := "tanuki::ts"

/-- Bundles a library. -/
def make (root : Path) (options : BundleOptions) : Action ToolError Path := do
  let bundler ← Tool.resolve root "esbuild"
  let _ ← Tool.exec root bundler options.args
  Action.report
    { level := .debug, target, message := "bundle written"
      fields := [("outfile", options.outfile)] }
  return options.outfile

/-- A program that loads a module and prints the kind of its exports and their keys. -/
def probeText : String :=
  "const m = require(process.argv[1]); const type = m === null ? 'null' : typeof m; " ++
    "const keys = type === 'object' || type === 'function' " ++
    "? Object.getOwnPropertyNames(m) : []; " ++
    "process.stdout.write(JSON.stringify(\x7b type, keys \x7d));"

/-- Loads a bundle and tells what it exports. -/
def probe (root bundle : Path) : Action Failure ModuleShape := do
  let node ← (Tool.resolveSystem "node").mapError .tool
  let output ← (Tool.exec root node ["-e", probeText, bundle]).mapError .tool
  match ModuleShape.ofBytes output.stdout with
  | .ok shape => return shape
  | .error complaint => Action.fail (.build (.wrapper bundle complaint.message))

/-- Writes the wrapper of a bundle, which imports the bundle from its own directory. -/
def writeWrapper (root bundle wrapper : Path) : Action Failure Unit := do
  let shape ← probe root bundle
  match bundle.fileName? with
  | none => Action.fail (.build (.wrapper bundle "bundle path has no file name"))
  | some name => do
    let text := Wrapper.text shape name ++ "\n"
    (Action.change fun fs => fs.write wrapper text.toUTF8).mapError fun e =>
      .build (.artifactWriteFailed wrapper e)
    Action.report { level := .info, target, message := "Emitted ESModule file." }

end TsWorkshop.Bundle
