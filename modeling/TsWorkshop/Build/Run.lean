import TsWorkshop.Build.Output
import TsWorkshop.Build.Plan
import TsWorkshop.Bundle.Run
import TsWorkshop.Compiler.Run
import TsWorkshop.Docs.Output
import TsWorkshop.Docs.Source
import TsWorkshop.Report.Frame
import TsWorkshop.Terminal

/-!
Building a project. An application is compiled; a library is bundled into an emptied output
directory, with a wrapper and documentation if they are asked for.
-/

namespace TsWorkshop

namespace Project

/-- Writes the documentation of a project. -/
def document (project : Project) (source : Action DocsError Declaration) :
    Action Failure Path := do
  let request : DocsRequest :=
    { output := project.docsOutput
      workspaces := project.config.typedoc.workspaces.isRequested }
  Action.report
    { level := .info, target := "tanuki::docs", message := "serializing documentation"
      fields := [("project", project.config.name), ("output", request.output)] }
  (Document.generate request .default source).mapError .docs

/-- Lets TypeDoc reflect a project, and writes the documentation. -/
def documentByTool (project : Project) : Action Failure Path :=
  project.document (Reflection.ofProject project)

/-- The module that a library's bundle starts from. -/
def entry (project : Project) : Path := project.resolve (Path.join "src" "index.ts")

end Project

namespace Build

def info (message : String) : Event := { level := .info, target := "tanuki::ts", message }

/-- A diagnostic with an excerpt of its source, if that can be read. -/
def diagnosticText (fs : FileSystem) (root : Path) (colors : Bool) (d : Diagnostic) : String :=
  let source := d.file.bind fun file => (fs.readText (root.join file)).toOption
  Frame.message source d.line d.column (d.location ++ " | " ++ d.message) false colors

/-- Compiles a project. All diagnostics are shown; errors among them are a failure. -/
def compile (project : Project) : Action Failure Unit := do
  let config ← Compiler.findConfig project.root project.config.tsconfig
  let options ← Compiler.showConfig project.root config
  if options.noEmit then
    Terminal.status .warning "Will not emit files, will only type-check."
  let diagnostics ← Compiler.compile project.root config
  let fs ← Action.files
  let colors ← Action.asks Host.colors
  Terminal.blocks (diagnostics.map (diagnosticText fs project.root colors))
  let errors := diagnostics.countP Diagnostic.isError
  if 0 < errors then Action.fail (.build (.diagnostics errors)) else return ()

/-- Makes the bundle of a library, and its wrapper if that is asked for. -/
def emitArtifacts (project : Project) (plan : LibraryPlan) (directory : Path) :
    Action Failure (List Path) := do
  let bundle := artifactPath directory project.config.name "cjs"
  let _ ← (Bundle.make project.root
    { entry := project.entry, outfile := bundle, minify := plan.minify }).mapError .tool
  if plan.esm then
    let wrapper := artifactPath directory project.config.name "mjs"
    Bundle.writeWrapper project.root bundle wrapper
    return [bundle, wrapper]
  else return [bundle]

/-- Empties the output directory, which is not done before the module to bundle was checked. -/
def prepare (project : Project) : Action Failure Path := do
  let config ← Compiler.findConfig project.root project.config.tsconfig
  let options ← Compiler.showConfig project.root config
  let directory := options.buildDir project.root
  Action.ofExcept (checkEntry (← Action.files) project.entry)
  Action.alter fun fs => cleanOutput fs directory
  return directory

/-- Builds a library. -/
def makeLibrary (project : Project) (plan : LibraryPlan) : Action Failure Unit := do
  Action.report (info "Compiling artifacts with \x60esbuild\x60!")
  let directory ← prepare project
  let artifacts ← emitArtifacts project plan directory
  Terminal.artifacts (sizes (← Action.files) artifacts)
  Action.print ("  done in " ++ (← Action.asks Host.elapsed).text)
  if plan.docs then
    let path ← project.documentByTool
    Terminal.status .info ("Generated documentation in " ++ path)

def yesNo (flag : Bool) : String := if flag then "yes" else "no"

/-- The reports of what a library build makes. -/
def planReports (args : BuildArgs) (plan : LibraryPlan) : List Event :=
  (if args.cjs then [info "|> Emit CommonJS: yes"] else []) ++
    [info ("|> Emit ES Modules: " ++ yesNo plan.esm),
     info ("|> Minified Output: " ++ yesNo plan.minify),
     info ("|> Documentation: " ++ yesNo plan.docs)]

/-- Builds a project as a command line asks for. -/
def run (args : BuildArgs) (project : Project) : Action Failure Unit := do
  Action.report (info ("Mode: " ++ project.config.build.mode.name))
  Action.reportAll (BuildPlan.warnings args project.config.build)
  match BuildPlan.decide args project.config.build with
  | .compile =>
    Terminal.status .info "Invoking TypeScript compiler..."
    compile project
  | .library plan =>
    Action.reportAll (planReports args plan)
    makeLibrary project plan
  Terminal.status .success ("Built artifacts in " ++ (← Action.asks Host.elapsed).text)

end Build

end TsWorkshop
