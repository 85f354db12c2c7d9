import Std.Time.DateTime.Timestamp
import TsWorkshop.CommandLine.Program
import TsWorkshop.FileSystem.Change
import TsWorkshop.Script.Run

/-!
The command line. The files below the working directory are read before the run, and what the run
has changed is written back afterwards. Programs that a run starts are the scripts among these
files.
-/

namespace TsWorkshop.Disk

/-- The variables that are looked at. -/
def variableNames : List String :=
  ["PATH", "TMPDIR", "NO_COLOR", "FORCE_COLOR", "RUST_LOG"] ++ Terminal.unattendedNames ++
    ["NAME", "TSCONFIG", "BUILD", "BUILD__ESM", "BUILD__MINIFY", "BUILD__PROVIDEDOCS",
     "BUILD__UPLOADER", "BUILD__MODE", "ESLINT", "ESLINT__FIX", "ESLINT__EXTENSIONS", "TYPEDOC",
     "TYPEDOC__WORKSPACES", "TYPEDOC__FINDTYPEDOCFILE", "TYPEDOC__ENTRYPOINTS",
     "TYPEDOC__OUT"].map (Environment.leafMark ++ ·)

/-- The variables that are set. -/
def environment : IO Environment := do
  variableNames.filterMapM fun name => do
    return (← IO.getEnv name).map fun value => (name, value)

/-- The path of a place. -/
def pathOf (place : Place) : String := "/" ++ Text.join "/" place

/-- Whether a file is a script, which may be started. -/
def isScript (content : ByteArray) : Bool := (Script.interpreter? content).isSome

/-- Adds what lies below a directory. -/
partial def load (fs : FileSystem) (place : Place) : IO FileSystem := do
  let directory ← IO.FS.realPath (pathOf place)
  let mut fs := fs.put place .directory
  for found in ← directory.readDir do
    let inner := place ++ [found.fileName]
    match (← found.path.symlinkMetadata).type with
    | .dir => fs ← load fs inner
    | .file => do
      let content ← IO.FS.readBinFile found.path
      fs := fs.put inner (.file content (isScript content))
    | _ => pure ()
  return fs

/-- Takes a step on disk. -/
def apply (change : Change) : IO Unit :=
  match change with
  | .remove place => do
    if ← (← IO.FS.realPath (pathOf place)).isDir then IO.FS.removeDirAll (pathOf place)
    else IO.FS.removeFile (pathOf place)
  | .makeDirectory place => IO.FS.createDirAll (pathOf place)
  | .write place content => IO.FS.writeBinFile (pathOf place) content

/-- Adds a directory and those above it. -/
def withDirectory (fs : FileSystem) (place : Place) : FileSystem :=
  ((List.range place.length).map fun n => place.take (n + 1)).foldl
    (fun fs place => fs.put place .directory) fs

/-- The shell, and the directories that lead to some places. -/
def surroundings (places : List Place) : FileSystem :=
  places.foldl withDirectory
    (((FileSystem.mk []).put ["bin"] .directory).put Script.shellPlace (.file .empty true))

/-- The present. -/
def now : IO Timestamp := do
  let nanoseconds := (← Std.Time.Timestamp.now).toNanosecondsSinceUnixEpoch.val
  return ⟨nanoseconds.fdiv 1000000000, (nanoseconds.fmod 1000000000).toNat⟩

/-- A duration of so many nanoseconds. -/
def durationOf (nanoseconds : Nat) : Measure.Duration :=
  ⟨nanoseconds / 1000000000, nanoseconds % 1000000000⟩

end TsWorkshop.Disk

open TsWorkshop

def main (args : List String) : IO UInt32 := do
  let directory := (← IO.currentDir).toString
  let place := Path.names directory
  let host : Host :=
    { cwd := directory, environment := ← Disk.environment, launch := Script.launcher
      now := ← Disk.now, runMark := toString (← IO.monoNanosNow) }
  let scratch := Path.names (Reflection.scratchParent host)
  let before ← Disk.load (Disk.surroundings [place, scratch]) place
  -- a run that is timed says nothing yet, so that the run that counts can tell the time
  let start ← IO.monoNanosNow
  let timed := Program.run host false before args
  let elapsed ← (if timed.code = 0 then do return (← IO.monoNanosNow) - start else return 0)
  let outcome := Program.run { host with elapsed := Disk.durationOf elapsed } false before args
  for change in before.changes outcome.files do Disk.apply change
  for line in outcome.log do IO.eprintln line
  IO.eprint outcome.screen
  match outcome.halt with
  | some halt => IO.eprintln halt.report
  | none => pure ()
  IO.print outcome.stdout
  return outcome.code.toUInt32
