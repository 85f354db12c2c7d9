import TsWorkshop.Config.Loading
import TsWorkshop.Process.Arguments
import TsWorkshop.Reflection.Shape
import TsWorkshop.Tool.Run

/-!
Where reflections come from: a file that is there already, or a run of TypeDoc, which writes its
reflection into a scratch directory.
-/

namespace TsWorkshop.Reflection

def target : String := "tanuki::docs"

def debug (message : String) (fields : Assoc String := []) : Event :=
  { level := .debug, target, message, fields }

/-- The reflection in a file. -/
def ofFile (fs : FileSystem) (path : Path) : Except DocsError Declaration :=
  match fs.readText path with
  | .error .notFound => .error (.noReflection ("'" ++ path ++ "' does not exist"))
  | .error e => .error (.io path e)
  | .ok text => (Declaration.ofText text).mapError (.json path)

/-- Reads a reflection from a file. -/
def fromFile (path : Path) : Action DocsError Declaration := do
  Action.report (debug "reading reflection" [("path", path)])
  Action.ofExcept (ofFile (← Action.files) path)

/-- The names of the files that TypeDoc may be configured by, in the order in which they are
tried. -/
def optionsNames : List String := ["typedoc.json", "typedoc.js", "typedoc.cjs"]

/-- The file that TypeDoc is configured by. -/
def optionsFile? (fs : FileSystem) (root : Path) : Option Path :=
  Tool.firstFile? fs (optionsNames.map root.join)

/-- What is reflected for a project. -/
def optionsOf (fs : FileSystem) (project : Project) : ReflectionOptions :=
  { entryPoints := project.config.typedoc.entryPoints
    tsconfig := project.config.tsconfig.map project.resolve
    optionsFile :=
      if project.config.typedoc.findTypedocFile then optionsFile? fs project.root else none }

/-- The directory that scratch directories are made in. -/
def scratchParent (host : Host) : Path :=
  host.cwd.join ((host.environment.get? "TMPDIR").getD "/tmp")

/-- The scratch directory of a run. -/
def scratchDirectory (host : Host) : Path :=
  (scratchParent host).join ("tanuki-typedoc" ++ host.runMark)

/-- An action with a scratch directory, which is removed afterwards. -/
def withScratch {α : Type} (action : Path → Action DocsError α) : Action DocsError α := do
  let scratch ← Action.asks scratchDirectory
  (Action.change fun fs => fs.makeDirectory scratch).mapError fun e =>
    .noReflection (e.message ++ " at path " ++ Text.shown scratch)
  let result ← (action scratch).attempt
  let _ ← ((Action.change fun fs => fs.remove scratch).attempt : Action DocsError _)
  Action.ofExcept result

/-- The reflection that TypeDoc makes of a project. -/
def ofProject (project : Project) : Action DocsError Declaration := do
  let orNone {α : Type} (action : Action ToolError α) : Action DocsError α :=
    action.mapError fun e => .noReflection e.message
  let options := optionsOf (← Action.files) project
  let tool ← orNone (Tool.resolve project.root "typedoc")
  withScratch fun scratch => do
    let out := scratch.join "reflection.json"
    Action.report { level := .info, target, message := "Generating documentation..." }
    let _ ← orNone (Tool.exec project.root tool (options.args out))
    if (← Action.files).isFile out then
      Action.report (debug "Received project reflection.")
      fromFile out
    else Action.fail (.noReflection "typedoc did not write a reflection")

end TsWorkshop.Reflection
