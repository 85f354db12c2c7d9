import TsWorkshop.Config.Basic
import TsWorkshop.Error
import TsWorkshop.Event

/-!
What a configuration must satisfy, what is ignored in it, and the plan of the build that it asks
for.
-/

namespace TsWorkshop.Config

/-- The first fault of a configuration. -/
def fault? (c : Config) : Option ConfigError :=
  if Text.allBlank c.name then
    some (.invalidValue "name" ""
      "The project name names library artifacts and cannot be empty")
  else if c.eslint.extensions.isEmpty then
    some (.missingField "eslint.extensions" "List at least one extension, e.g. [\".ts\"]")
  else if c.typedoc.entryPoints.isEmpty then
    some (.missingField "typedoc.entryPoints" "Provide at least one entry point")
  else none

/-- The report that a setting has no effect. -/
def ignored (field : String) : Event :=
  { level := .warn, target := "tanuki::config"
    message := field ++ " is ignored when building in application mode" }

/-- The reports about settings that only library builds heed. -/
def warnings (c : Config) : List Event :=
  if c.build.mode = .app then
    [("build.esm", c.build.esm), ("build.minify", c.build.minify),
     ("build.provideDocs", c.build.provideDocs)].filterMap fun (field, set) =>
      if set then some (ignored field) else none
  else []

/-- The events and the outcome of a check: a faulty configuration is refused without a report. -/
def validate (c : Config) : List Event × Except ConfigError Unit :=
  match c.fault? with
  | some fault => ([], .error fault)
  | none => (c.warnings, .ok ())

/-- The file that the documentation of the project at `root` is written to. -/
def docsOutput (c : Config) (root : Path) : Path := root.join c.typedoc.out

end TsWorkshop.Config
