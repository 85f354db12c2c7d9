import TsWorkshop.CommandLine.Basic
import TsWorkshop.Event

/-!
What a build does: compile every module, or make a library with the artifacts that flags or the
configuration ask for.
-/

namespace TsWorkshop

/-- The artifacts of a library build beside the bundle, and the bundle's form. -/
structure LibraryPlan where
  esm : Bool
  minify : Bool
  docs : Bool
  deriving DecidableEq, Repr

inductive BuildPlan where
  | compile
  | library (plan : LibraryPlan)
  deriving DecidableEq, Repr

namespace LibraryPlan

/-- An artifact is made if a flag or the configuration asks for it. -/
def resolve (args : BuildArgs) (settings : BuildSettings) : LibraryPlan :=
  { esm := args.esm || settings.esm
    minify := args.minify || settings.minify
    docs := args.docs || settings.provideDocs }

end LibraryPlan

namespace BuildPlan

/-- The report about flags that only library builds heed. -/
def flagsIgnored : Event :=
  { level := .warn, target := "tanuki::ts"
    message := "--esm, --minify and --docs only apply to library builds" }

def decide (args : BuildArgs) (settings : BuildSettings) : BuildPlan :=
  if args.develop then compile
  else match settings.mode with
    | .app => compile
    | .library => library (LibraryPlan.resolve args settings)

/-- The reports about flags that the plan does not heed. -/
def warnings (args : BuildArgs) (settings : BuildSettings) : List Event :=
  if !args.develop && settings.mode = .app && (args.esm || args.minify || args.docs) then
    [flagsIgnored]
  else []

end BuildPlan

end TsWorkshop
