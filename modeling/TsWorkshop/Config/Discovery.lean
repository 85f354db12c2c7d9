import TsWorkshop.Error
import TsWorkshop.Event
import TsWorkshop.FileSystem.Access
import TsWorkshop.Json.Shape

/-!
Where a project keeps its configuration. `ConfigSource.find` takes the first usable file of a fixed
list of places; `ConfigSource.ofPath` takes a file that was named.
-/

namespace TsWorkshop

/-- How the configuration is written in a file. -/
inductive ConfigFormat where
  /-- A field of a package description. -/
  | package
  | json | yaml | toml
  deriving DecidableEq, Repr

/-- A file with a configuration. -/
structure ConfigSource where
  format : ConfigFormat
  path : Path
  deriving DecidableEq, Repr

namespace ConfigSource

/-- The field of a package description that holds a configuration. -/
def packageFieldName : String := "tanuki"

/-- The names of the files that may hold a configuration, in the order in which they are tried. -/
def places : List String :=
  ["package.json", ".tanukirc", ".tanukirc.ts", ".tanukirc.js", ".tanukirc.json", ".tanukirc.yaml",
   ".tanukirc.yml", "tanuki.toml"]

/-- The format that a file's name tells; `none` for scripts, which are not run. A name that tells
nothing stands for YAML, in which JSON can be written too. -/
def formatOf? (path : Path) : Option ConfigFormat :=
  if path.fileName? = some "package.json" then some .package
  else
    match path.extension? with
    | some "json" => some .json
    | some "yaml" | some "yml" => some .yaml
    | some "toml" => some .toml
    | some "ts" | some "js" | some "cjs" | some "mjs" => none
    | _ => some .yaml

/-- The source at a path that was named. -/
def ofPath (fs : FileSystem) (path : Path) : Except ConfigError ConfigSource :=
  if !fs.isFile path then .error (.notFound path)
  else
    match formatOf? path with
    | some format => .ok { format, path }
    | none => .error (.unsupported path)

/-- A field that is there and not `null`. -/
def fieldOf? (package : Json) : Option Json :=
  (package.field? packageFieldName).filter (· != .null)

/-- The configuration in a package description, if it can be read. -/
def packageField? (fs : FileSystem) (path : Path) : Option Json := do
  let text ← (fs.readText path).toOption
  fieldOf? (← (Json.contentOfText text).toOption)

/-- The configuration in a package description that must have one. -/
def packageField (fs : FileSystem) (path : Path) : Except ConfigError Json := do
  let text ← (fs.readText path).mapError .io
  let package ← (Json.contentOfText text).mapError fun c => .invalid path c.message
  match fieldOf? package with
  | some value => return value
  | none =>
    throw (.missingField packageFieldName "Add a 'tanuki' field to your package.json")

/-- The report that a script is passed over. -/
def skipped (path : Path) : Event :=
  { level := .warn, target := "tanuki::config"
    message := "Skipping " ++ path ++ ": script config files cannot be evaluated" }

/-- The report of the file that was found. -/
def found (message : String) (path : Path) : Event :=
  { level := .debug, target := "tanuki::config", message, fields := [("path", path)] }

/-- Tries places below a root, in order. -/
def findAmong (fs : FileSystem) (root : Path) : List String → List Event × Option ConfigSource
  | [] => ([], none)
  | place :: rest =>
    let path := root.join place
    if !fs.isFile path then findAmong fs root rest
    else if place = "package.json" then
      if (packageField? fs path).isSome then
        ([found "using package.json field" path], some { format := .package, path })
      else findAmong fs root rest
    else
      match ofPath fs path with
      | .ok source => ([found "found config file" path], some source)
      | .error _ =>
        let (events, source) := findAmong fs root rest
        (skipped path :: events, source)

/-- The source of the project at a root, and what is reported on the way. -/
def find (fs : FileSystem) (root : Path) : List Event × Option ConfigSource :=
  findAmong fs root places

end ConfigSource

end TsWorkshop
