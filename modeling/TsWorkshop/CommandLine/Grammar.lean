import TsWorkshop.CommandLine.Basic

/-!
The grammar of the command line: the commands, their options in the order in which help shows them,
and what each of them is for.
-/

namespace TsWorkshop.CommandLine

/-- The options of all commands. -/
inductive OptionName where
  | verbose | quiet | noColor | config | cwd | help | version
  | mode | cjs | esm | minify | docs | develop
  | fix | noFix
  | reflection | out
  deriving DecidableEq, Repr

/-- What may stand for the value of an option. -/
inductive ValueKind where
  /-- Any path but the empty one. -/
  | path
  | mode
  deriving DecidableEq, Repr

/-- The spellings of the modes; the alias is not shown in help. -/
def modes : Assoc BuildMode := [("app", .app), ("library", .library), ("lib", .library)]

def ValueKind.accepts : ValueKind → String → Bool
  | path, value => value ≠ ""
  | mode, value => modes.has value

/-- An option: a flag, or one that takes a value. -/
structure OptionRule where
  name : OptionName
  long : String
  short : Option Char := none
  /-- Further long spellings, not shown in help. -/
  aliases : List String := []
  /-- The value, with the name that help shows for it. -/
  value : Option (ValueKind × String) := none
  /-- Values that help lists, with their descriptions. -/
  choices : List (String × String) := []
  about : String
  /-- A further paragraph of the long help. -/
  more : Option String := none

/-- The arguments that are no options. -/
structure FilesRule where
  valueName : String
  default : String
  about : String

/-- A command, or the program itself. -/
structure CommandRule where
  /-- The name of a command; the program has none. -/
  name : Option String := none
  about : String
  /-- The introduction of the long help, if it differs. -/
  longAbout : Option String := none
  options : List OptionRule
  files : Option FilesRule := none
  /-- The commands with their descriptions. -/
  commands : List (String × String) := []
  /-- Pairs of options that exclude each other. -/
  conflicts : List (OptionName × OptionName) := []

/-! ### Options -/

namespace OptionRule

def verbose : OptionRule :=
  { name := .verbose, long := "verbose", short := some 'v'
    about := "Enable verbose logging (debug level)" }

def quiet : OptionRule :=
  { name := .quiet, long := "quiet", short := some 'q'
    about := "Suppress all output except errors" }

def noColor : OptionRule :=
  { name := .noColor, long := "no-color", about := "Disable colored output" }

def config : OptionRule :=
  { name := .config, long := "config", short := some 'c', value := some (.path, "FILE")
    about := "Use this config file instead of searching the project root" }

def cwd : OptionRule :=
  { name := .cwd, long := "cwd", value := some (.path, "DIR")
    about := "Project root (defaults to the current directory)" }

def help : OptionRule :=
  { name := .help, long := "help", short := some 'h', about := "Print help" }

def version : OptionRule :=
  { name := .version, long := "version", short := some 'V', about := "Print version" }

def mode : OptionRule :=
  { name := .mode, long := "mode", value := some (.mode, "MODE")
    choices := [("app", "Application build"), ("library", "Library build")]
    about := "Build mode (app, library); falls back to build.mode in the config" }

def cjs : OptionRule :=
  { name := .cjs, long := "cjs", aliases := ["commonjs"], about := "Emit CommonJS output"
    more := some ("Library builds always emit <name>.cjs; " ++
      "this flag is accepted for symmetry with --esm.") }

def esm : OptionRule :=
  { name := .esm, long := "esm", aliases := ["esmodules"]
    about := "Also emit an ES module wrapper (<name>.mjs), library mode only" }

def minify : OptionRule :=
  { name := .minify, long := "minify", short := some 'm'
    about := "Minify the bundled output, library mode only" }

def docs : OptionRule :=
  { name := .docs, long := "docs", short := some 'd'
    about := "Generate docs.json after bundling, library mode only" }

def develop : OptionRule :=
  { name := .develop, long := "develop", aliases := ["dev"]
    about := "Only run the TypeScript compiler, whatever the mode" }

def fix : OptionRule :=
  { name := .fix, long := "fix"
    about := "Apply ESLint fixes (defaults to eslint.fix in the config)" }

def noFix : OptionRule :=
  { name := .noFix, long := "no-fix", about := "Report only, do not apply fixes" }

def reflection : OptionRule :=
  { name := .reflection, long := "reflection", value := some (.path, "FILE")
    about := "Read the reflection from an existing typedoc JSON file instead of running typedoc" }

def out : OptionRule :=
  { name := .out, long := "out", short := some 'o', value := some (.path, "FILE")
    about := "Where to write docs.json (defaults to typedoc.out in the config)" }

end OptionRule

/-- The options that hold for every command and may stand on either side of it. -/
def globals : List OptionName := [.verbose, .quiet, .noColor, .config, .cwd]

/-- Being verbose and being quiet exclude each other. -/
def globalConflicts : List (OptionName × OptionName) := [(.quiet, .verbose)]

/-! ### Commands -/

def buildRule : CommandRule :=
  { name := some "build", about := "Build the project artifacts"
    longAbout := some ("Build the project artifacts\n\n" ++
      "Applications are compiled with tsc. Libraries are bundled with esbuild into " ++
      "<outDir>/<name>.cjs, with optional .mjs wrapper and docs.json.")
    options :=
      [.mode, .verbose, .cjs, .quiet, .esm, .noColor, .config, .minify, .cwd, .docs, .develop,
       .help]
    conflicts := globalConflicts }

def lintRule : CommandRule :=
  { name := some "lint", about := "Run ESLint in the current project"
    longAbout := some ("Run ESLint in the current project\n\n" ++
      "Prints a warning/error summary followed by a source excerpt for every reported message.")
    options := [.fix, .verbose, .noFix, .quiet, .noColor, .config, .cwd, .help]
    files := some ⟨"FILES", ".", "Files, directories or globs to lint"⟩
    conflicts := globalConflicts ++ [(.fix, .noFix)] }

def docsRule : CommandRule :=
  { name := some "docs", about := "Generate docs.json from the project's typedoc reflection"
    options := [.reflection, .verbose, .out, .quiet, .noColor, .config, .cwd, .help]
    conflicts := globalConflicts }

/-- The program itself, of which a command must follow. -/
def programRule : CommandRule :=
  { about := "Build, lint and document TypeScript projects"
    longAbout := some ("Tanuki wraps tsc, esbuild, ESLint and typedoc behind one command line.\n" ++
      "It reads its settings from package.json (\"tanuki\" field), .tanukirc files\n" ++
      "or tanuki.toml, and writes API documentation as docs.json.")
    options := [.verbose, .quiet, .noColor, .config, .cwd, .help, .version]
    commands :=
      [("build", buildRule.about), ("lint", lintRule.about), ("docs", docsRule.about),
       ("help", "Print this message or the help of the given subcommand(s)")]
    conflicts := globalConflicts }

/-- The rule of a command. -/
def rule? : String → Option CommandRule
  | "build" => some buildRule
  | "lint" => some lintRule
  | "docs" => some docsRule
  | _ => none

/-- The name of the program in messages. -/
def programName : String := "tanuki"

def versionNumber : String := "0.1.0"

end TsWorkshop.CommandLine
