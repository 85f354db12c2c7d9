import TsWorkshop.Action

/-!
Where tools are found: in the nearest directory of locally installed programs, through the package
runner, or on the search path.
-/

namespace TsWorkshop.Tool

/-- Where a package manager puts the programs of a directory's packages. -/
def localBin (directory : Path) (name : String) : Path :=
  ((directory.join "node_modules").join ".bin").join name

/-- The first of some paths that is a file. -/
def firstFile? (fs : FileSystem) (paths : List Path) : Option Path := paths.find? fs.isFile

/-- The locally installed program nearest to a directory. -/
def findLocal? (fs : FileSystem) (start : Path) (name : String) : Option Path :=
  firstFile? fs (start.ancestors.map fun directory => localBin directory name)

/-- Whether a file may be started. -/
def isExecutable (fs : FileSystem) (path : Path) : Bool :=
  match fs.entry path with
  | .ok (.file _ executable) => executable
  | _ => false

/-- The directories of the search path. -/
def searchPath (environment : Environment) : List Path :=
  match environment.get? "PATH" with
  | some dirs => Text.split ':' dirs
  | none => []

/-- The program that a name stands for: a path itself, or the first match on the search path. -/
def findOnPath? (fs : FileSystem) (cwd : Path) (environment : Environment) (name : String) :
    Option Path :=
  if name = "" then none
  else if name.toList.contains '/' then
    if isExecutable fs (cwd.join name) then some (cwd.join name) else none
  else
    ((searchPath environment).map fun directory => (cwd.join directory).join name).find?
      (isExecutable fs)

/-- The package runner. -/
def runnerName : String := "npx"

def debug (message : String) (fields : Assoc String := []) : Event :=
  { level := .debug, target := "tanuki::shell", message, fields }

/-- Finds a tool for a project: the nearest local program, else one that the package runner gets. -/
def resolve (root : Path) (name : String) : Action ToolError Invocation := do
  let fs ← Action.files
  match findLocal? fs root name with
  | some path => do
    Action.report (debug "using local binary" [("tool", Text.shown name), ("path", path)])
    return Invocation.direct path name
  | none => do
    let runner ← Action.asks fun host => findOnPath? fs host.cwd host.environment runnerName
    match runner with
    | some runner => do
      Action.report (debug "falling back to npx" [("tool", Text.shown name)])
      return Invocation.throughRunner runner name
    | none => Action.fail (.notFound name ("Install it with \x60npm install -D " ++ name ++ "\x60"))

/-- Finds a program on the search path. -/
def resolveSystem (name : String) : Action ToolError Invocation := do
  let fs ← Action.files
  let program ← Action.asks fun host => findOnPath? fs host.cwd host.environment name
  match program with
  | some path => return Invocation.direct path name
  | none =>
    Action.fail (.notFound name
      ("Make sure \x60" ++ name ++ "\x60 is installed and on your PATH"))

end TsWorkshop.Tool
