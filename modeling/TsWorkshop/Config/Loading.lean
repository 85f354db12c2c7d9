import TsWorkshop.CommandLine.Basic
import TsWorkshop.Config.Discovery
import TsWorkshop.Config.Environment
import TsWorkshop.Config.Validation
import TsWorkshop.Config.Reading
import TsWorkshop.Toml.Document
import TsWorkshop.Yaml.Document

/-!
The configuration of a project, put together from four layers: the command line is laid over the
environment, the environment over the project's file, and the file over the defaults.
-/

namespace TsWorkshop

/-- The layer of settings that a command line overrides. -/
def Overrides.layer (o : Overrides) : Setting :=
  let member? {α : Type} (name key : String) (value : Option α) (toJson : α → Json) : Assoc Json :=
    match value with
    | some a => [(name, .obj [(key, toJson a)])]
    | none => []
  .ofJson .overrides (.obj (member? "build" "mode" o.mode (fun mode => .str mode.name) ++
    member? "eslint" "fix" o.eslintFix .bool ++ member? "typedoc" "out" o.docsOut .str))

namespace Config

/-- The layer of the values that hold where nothing else is set. -/
def defaultLayer : Setting := .ofJson .defaults ({} : Config).toJson

/-- The configuration that layers make. -/
def ofLayers (file : Option Setting) (environment overrides : Setting) : Except Refusal Config :=
  let base := match file with
    | some layer => defaultLayer.overlaid layer
    | none => defaultLayer
  ofSetting ((base.overlaid environment).overlaid overrides)

/-- A JSON file holds an object, of which every member is read. -/
def fileGrammar : Grammar Unit := fun _ => { title := "a map", fields := [], keepsOthers := true }

/-- The members that a file's text sets, or what is wrong with the text. -/
def membersOfText (format : ConfigFormat) (text : String) :
    Except String (List (String × Data)) :=
  match format with
  | .package | .json =>
    match (Shape.record ()).ofText fileGrammar text with
    | .ok value => .ok (Data.ofJsonMembers (value.members?.getD []))
    | .error complaint => .error complaint.message
  | .yaml => (Yaml.membersOfText text).mapError Yaml.Fault.message
  | .toml => Toml.membersOfText text

end Config

/-- The name of a format in messages. -/
def ConfigFormat.name : ConfigFormat → String
  | package | json => "JSON"
  | yaml => "YAML"
  | toml => "TOML"

namespace ConfigSource

/-- The layer of a file of its own, for a user in the directory `cwd`. -/
def fileLayer (fs : FileSystem) (cwd : Path) (source : ConfigSource) : Except Refusal Setting :=
  let origin := Origin.file (Path.shownFrom cwd source.path) source.format.name
  let unreadable (message : String) : Refusal :=
    { objection := .unreadable message, origin := some origin }
  match fs.readText source.path with
  | .error e => .error (unreadable e.message)
  | .ok text =>
    match Config.membersOfText source.format text with
    | .ok members => .ok (.ofData origin (.dict members))
    | .error message => .error (unreadable message)

/-- The layer of a field in a package description. -/
def packageLayer (value : Json) : Except Refusal Setting :=
  match Setting.ofJson .package value with
  | .dict origin members => .ok (.dict origin members)
  | setting => .error (setting.refusal "map")

/-- The layer of a source. The cause of a failure is either one of its own or a refusal. -/
def layer (fs : FileSystem) (cwd : Path) (source : ConfigSource) :
    Except (ConfigError ⊕ Refusal) Setting :=
  match source.format with
  | .package =>
    match packageField fs source.path with
    | .error e => .error (.inl e)
    | .ok value => (packageLayer value).mapError .inr
  | _ => (source.fileLayer fs cwd).mapError .inr

end ConfigSource

namespace Config

/-- The name of a configuration in messages: its file, or the environment. -/
def sourceName (source : Option ConfigSource) : String :=
  match source with
  | some source => source.path
  | none => "environment"

/-- The configuration from a source, the environment and a command line. -/
def load (fs : FileSystem) (cwd : Path) (environment : Environment) (source : Option ConfigSource)
    (overrides : Overrides) : Except ConfigError Config :=
  let invalid (r : Refusal) : ConfigError := .invalid (sourceName source) r.message
  let file : Except (ConfigError ⊕ Refusal) (Option Setting) :=
    match source with
    | none => .ok none
    | some source => (source.layer fs cwd).map some
  match file with
  | .error (.inl e) => .error e
  | .error (.inr r) => .error (invalid r)
  | .ok file => (ofLayers file environment.layer overrides.layer).mapError invalid

end Config

/-- A project: its directory, its configuration, and the file that this comes from. -/
structure Project where
  root : Path
  config : Config
  configFile : Option Path
  deriving DecidableEq, Repr

namespace Project

/-- The source of a project's configuration: the file that was named, or the one that is found. -/
def source (fs : FileSystem) (root : Path) (explicit : Option Path) :
    List Event × Except ConfigError (Option ConfigSource) :=
  match explicit with
  | some path => ([], (ConfigSource.ofPath fs (root.join path)).map some)
  | none =>
    let (events, source) := ConfigSource.find fs root
    (events, .ok source)

/-- Loads the project at a root and checks its configuration. -/
def load (fs : FileSystem) (cwd : Path) (environment : Environment) (root : Path)
    (explicit : Option Path) (overrides : Overrides) : List Event × Except ConfigError Project :=
  match Project.source fs root explicit with
  | (events, .error e) => (events, .error e)
  | (events, .ok source) =>
    match Config.load fs cwd environment source overrides with
    | .error e => (events, .error e)
    | .ok config =>
      let (warnings, checked) := config.validate
      (events ++ warnings,
        checked.map fun _ => { root, config, configFile := source.map ConfigSource.path })

/-- A path of the project. -/
def resolve (project : Project) (path : Path) : Path := project.root.join path

/-- The file that the documentation is written to. -/
def docsOutput (project : Project) : Path := project.config.docsOutput project.root

end Project

end TsWorkshop
