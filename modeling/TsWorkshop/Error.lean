import TsWorkshop.Json.Complaint
import TsWorkshop.Process.Invocation

/-!
What can go wrong while a project is configured, built, linted or documented. `Failure.message` is
the wording of each cause, and `Failure.report` what the user is shown at the end. A command fails,
or the program stops in the middle of it (`Halt`).
-/

namespace TsWorkshop

/-- A refusal of the operating system. -/
inductive IoError where
  | notFound | permissionDenied | notADirectory | isADirectory | directoryNotEmpty | execFormat
  | alreadyExists | invalidUtf8
  | other (text : String)
  deriving DecidableEq, Repr

namespace IoError

def message : IoError → String
  | notFound => "No such file or directory (os error 2)"
  | permissionDenied => "Permission denied (os error 13)"
  | notADirectory => "Not a directory (os error 20)"
  | isADirectory => "Is a directory (os error 21)"
  | directoryNotEmpty => "Directory not empty (os error 39)"
  | execFormat => "Exec format error (os error 8)"
  | alreadyExists => "File exists (os error 17)"
  | invalidUtf8 => "stream did not contain valid UTF-8"
  | other text => text

end IoError

inductive ConfigError where
  | notFound (path : Path)
  | invalid (source message : String)
  | unsupported (path : Path)
  | missingField (field hint : String)
  | invalidValue (field value hint : String)
  | io (error : IoError)
  deriving DecidableEq, Repr

inductive BuildError where
  | tsconfigNotFound (path : Path)
  | tsconfigInvalid (path : Path) (message : String)
  | entryNotFound (path : Path)
  | diagnostics (count : Nat)
  | artifactWriteFailed (path : Path) (error : IoError)
  | wrapper (path : Path) (message : String)
  deriving DecidableEq, Repr

inductive ToolError where
  | notFound (program hint : String)
  | spawn (command : String) (error : IoError)
  | failed (command : String) (status : ExitStatus) (stderr : String)
  | invalidOutput (command message : String)
  deriving DecidableEq, Repr

inductive DocsError where
  | noReflection (reason : String)
  | workspacesUnsupported
  | io (path : Path) (error : IoError)
  | json (path : Path) (complaint : Complaint)
  deriving DecidableEq, Repr

/-- Why a command failed. -/
inductive Failure where
  | config (error : ConfigError)
  | build (error : BuildError)
  | tool (error : ToolError)
  | docs (error : DocsError)
  | lintFailed (errors : Nat)
  | invalidArgument (text : String)
  | io (error : IoError)
  | json (complaint : Complaint)
  | custom (text : String)
  deriving DecidableEq, Repr

namespace ConfigError

def message : ConfigError → String
  | notFound path =>
    "Config file not found: " ++ path ++
      "\n\nHint: Create a .tanukirc.json file or pass --config <path>"
  | invalid source message =>
    "Invalid configuration in " ++ source ++ ": " ++ message ++
      "\n\nHint: Check the file syntax and field types"
  | unsupported path =>
    "Config file " ++ path ++ " cannot be evaluated\n\nHint: Move the configuration to " ++
      ".tanukirc.json or the \"tanuki\" field of package.json"
  | missingField field hint => "Missing required field: " ++ field ++ "\n\nHint: " ++ hint
  | invalidValue field value hint =>
    "Invalid value for '" ++ field ++ "': " ++ value ++ "\n\nHint: " ++ hint
  | io error => "Failed to read config file: " ++ error.message

end ConfigError

namespace BuildError

def message : BuildError → String
  | tsconfigNotFound path =>
    "Unable to locate \x60tsconfig.json\x60 from " ++ path ++
      "\n\nHint: Set the 'tsconfig' field in your Tanuki config"
  | tsconfigInvalid path message => "Unable to parse \x60" ++ path ++ "\x60: " ++ message
  | entryNotFound path =>
    "Entry point not found: " ++ path ++ "\n\nHint: Library builds bundle src/index.ts"
  | diagnostics count => "TypeScript reported " ++ toString count ++ " error(s)"
  | artifactWriteFailed path error =>
    "Failed to write artifact " ++ path ++ ": " ++ error.message ++
      "\n\nHint: Check output directory permissions"
  | wrapper path message => "Unable to generate ESM wrapper for " ++ path ++ ": " ++ message

/-- The report of a failed build. -/
def report : BuildError → String
  | diagnostics count =>
    (diagnostics count).message ++
      "\n\nHint: The diagnostics above point at the offending source"
  | error => error.message

end BuildError

namespace ToolError

def message : ToolError → String
  | notFound program hint => "Unable to find \x60" ++ program ++ "\x60\n\nHint: " ++ hint
  | spawn command error => "Unable to run \"" ++ command ++ "\": " ++ error.message
  | failed command status stderr =>
    "Unable to run \"" ++ command ++ "\" (" ++ status.text ++ "): " ++ stderr
  | invalidOutput command message => "Unexpected output from \"" ++ command ++ "\": " ++ message

/-- The report of a failed program: what it printed, if anything. -/
def report : ToolError → String
  | failed command _ stderr =>
    if Text.allBlank stderr then "\"" ++ command ++ "\" exited unsuccessfully"
    else "\"" ++ command ++ "\" exited unsuccessfully:\n" ++ Text.trimEnd stderr
  | error => error.message

end ToolError

namespace DocsError

def message : DocsError → String
  | noReflection reason => "unable to retrieve the project reflection: " ++ reason
  | workspacesUnsupported => "workspaces are not supported at this given moment"
  | io path error => "i/o failure on '" ++ path ++ "': " ++ error.message
  | json path complaint => "invalid json in '" ++ path ++ "': " ++ complaint.message

/-- Failures before anything was read or written. -/
def isStructural : DocsError → Bool
  | noReflection _ | workspacesUnsupported => true
  | _ => false

end DocsError

namespace Failure

def message : Failure → String
  | config error => "Configuration error: " ++ error.message
  | build error => "Build error: " ++ error.message
  | tool error => error.message
  | docs error => "Documentation error: " ++ error.message
  | lintFailed errors => "Lint failed with " ++ toString errors ++ " error(s)"
  | invalidArgument text => "Invalid argument: " ++ text
  | io error => "I/O error: " ++ error.message
  | json complaint => "JSON error: " ++ complaint.message
  | custom text => text

/-- What the user is shown. -/
def report : Failure → String
  | build error => error.report
  | tool error => error.report
  | docs error =>
    if error.isStructural then "Documentation was not generated: " ++ error.message
    else (docs error).message
  | failure => failure.message

/-- The failure behind a text that says what was being done. -/
def inContext (context : String) (failure : Failure) : Failure :=
  custom (context ++ ": " ++ failure.message)

end Failure

/-- How a command comes to an early end. -/
inductive Halt where
  | failure (cause : Failure)
  /-- A sum is no word, in a program that stops at such sums. -/
  | overflow
  deriving DecidableEq, Repr

namespace Halt

/-- The exit code of the program. -/
def code : Halt → Nat
  | failure _ => 1
  | overflow => 101

/-- What the user is shown. -/
def report : Halt → String
  | failure cause => cause.report
  | overflow => "attempt to add with overflow"

end Halt

end TsWorkshop
