import TsWorkshop.FileSystem.Path
import TsWorkshop.Json.Basic

/-!
The configuration of a project: how it is built, linted and documented, with the values that hold
where a configuration says nothing.
-/

namespace TsWorkshop

/-- What a build makes. -/
inductive BuildMode where
  /-- Every module is compiled on its own. -/
  | app
  /-- One bundle is made. -/
  | library
  deriving DecidableEq, Repr

def BuildMode.name : BuildMode → String
  | app => "app"
  | library => "library"

/-- Where published artifacts go. -/
inductive Uploader where
  | fs | s3
  deriving DecidableEq, Repr

def Uploader.name : Uploader → String
  | fs => "fs"
  | s3 => "s3"

/-- Documentation of several packages: a switch, or the list of the packages. -/
inductive Workspaces where
  | enabled (on : Bool)
  | packages (names : List String)
  deriving DecidableEq, Repr

/-- Whether several packages are to be documented; any list asks for it. -/
def Workspaces.isRequested : Workspaces → Bool
  | enabled on => on
  | packages _ => true

structure BuildSettings where
  /-- Write an ES module beside the bundle. -/
  esm : Bool := false
  minify : Bool := false
  /-- Write the documentation after a library build. -/
  provideDocs : Bool := false
  uploader : Uploader := .fs
  mode : BuildMode := .app
  deriving DecidableEq, Repr

structure LintSettings where
  /-- Mend what can be mended. -/
  fix : Bool := true
  /-- The extensions of the files to be linted. -/
  extensions : List String := [".d.ts", ".ts", ".js", ".jsx", ".tsx"]
  deriving DecidableEq, Repr

structure DocsSettings where
  workspaces : Workspaces := .enabled false
  /-- Let the documentation be configured by a file of its own. -/
  findTypedocFile : Bool := false
  entryPoints : List String := ["src/index.ts"]
  /-- Where the documentation is written, relative to the project. -/
  out : Path := "docs/docs.json"
  deriving DecidableEq, Repr

structure Config where
  /-- The project's name, which library artifacts are named for. -/
  name : String := "unknown"
  build : BuildSettings := {}
  eslint : LintSettings := {}
  /-- The compiler's configuration file, relative to the project. -/
  tsconfig : Option Path := none
  typedoc : DocsSettings := {}
  deriving DecidableEq, Repr

/-! ### Written form -/

def textsToJson (texts : List String) : Json := .arr (texts.map .str)

def Workspaces.toJson : Workspaces → Json
  | enabled on => .bool on
  | packages names => textsToJson names

def BuildSettings.toJson (b : BuildSettings) : Json :=
  .obj [("esm", .bool b.esm), ("minify", .bool b.minify), ("provideDocs", .bool b.provideDocs),
    ("uploader", .str b.uploader.name), ("mode", .str b.mode.name)]

def LintSettings.toJson (l : LintSettings) : Json :=
  .obj [("fix", .bool l.fix), ("extensions", textsToJson l.extensions)]

def DocsSettings.toJson (d : DocsSettings) : Json :=
  .obj [("workspaces", d.workspaces.toJson), ("findTypedocFile", .bool d.findTypedocFile),
    ("entryPoints", textsToJson d.entryPoints), ("out", .str d.out)]

/-- The written form; an absent compiler configuration is left out. -/
def Config.toJson (c : Config) : Json :=
  .obj ([("name", .str c.name), ("build", c.build.toJson), ("eslint", c.eslint.toJson)] ++
    (match c.tsconfig with
    | some path => [("tsconfig", .str path)]
    | none => []) ++
    [("typedoc", c.typedoc.toJson)])

end TsWorkshop
