import TsWorkshop.Config.Basic

/-!
What a command line asks for: one of the commands with its arguments, and the options that hold for
every command.
-/

namespace TsWorkshop

structure BuildArgs where
  mode : Option BuildMode := none
  cjs : Bool := false
  esm : Bool := false
  minify : Bool := false
  docs : Bool := false
  /-- Compile only, whatever the mode. -/
  develop : Bool := false
  deriving DecidableEq, Repr

structure LintArgs where
  files : List String := ["."]
  fix : Bool := false
  noFix : Bool := false
  deriving DecidableEq, Repr

structure DocsArgs where
  /-- A reflection file that is there already. -/
  reflection : Option Path := none
  out : Option Path := none
  deriving DecidableEq, Repr

inductive Command where
  | build (args : BuildArgs)
  | lint (args : LintArgs)
  | docs (args : DocsArgs)
  deriving DecidableEq, Repr

/-- A command line that was accepted. -/
structure CommandLine where
  verbose : Bool := false
  quiet : Bool := false
  noColor : Bool := false
  /-- The configuration file to use. -/
  config : Option Path := none
  /-- The directory of the project. -/
  cwd : Option Path := none
  command : Command
  deriving DecidableEq, Repr

/-- Settings that a command line lays over the configuration. -/
structure Overrides where
  mode : Option BuildMode := none
  eslintFix : Option Bool := none
  docsOut : Option Path := none
  deriving DecidableEq, Repr

/-- What a lint command says about fixing. -/
def LintArgs.fixOverride (args : LintArgs) : Option Bool :=
  if args.fix then some true else if args.noFix then some false else none

/-- The settings that a command's options override. -/
def Command.overrides : Command → Overrides
  | build args => { mode := args.mode }
  | lint args => { eslintFix := args.fixOverride }
  | docs args => { docsOut := args.out }

end TsWorkshop
