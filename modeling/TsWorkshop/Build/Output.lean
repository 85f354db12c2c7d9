import TsWorkshop.Action

/-!
The output directory of a library build: it is emptied before the build, and made if it is missing.
-/

namespace TsWorkshop.Build

/-- Checks the module that is bundled. -/
def checkEntry (fs : FileSystem) (entry : Path) : Except Failure Unit :=
  if !fs.pathExists entry then .error (.build (.entryNotFound entry))
  else if !fs.isFile entry then
    .error (.invalidArgument ("Entry point is not a file: " ++ entry))
  else .ok ()

/-- Empties a directory, or makes it. A path that is not a directory's is refused. Neither emptying
nor making is undone when it is refused on the way. -/
def cleanOutput (fs : FileSystem) (directory : Path) : Except Failure Unit × FileSystem :=
  if fs.pathExists directory then
    if !fs.isDirectory directory then
      (.error (.invalidArgument ("Output path exists but is not a directory: " ++ directory)), fs)
    else
      match fs.emptyDirectory directory with
      | (.ok (), fs) => (.ok (), fs)
      | (.error e, fs) => (.error ((Failure.io e).inContext ("Failed to clean " ++ directory)), fs)
  else
    match fs.provideDirectory directory with
    | (.ok (), fs) => (.ok (), fs)
    | (.error e, fs) => (.error ((Failure.io e).inContext ("Failed to create " ++ directory)), fs)

/-- The sizes of those paths that are there. A directory counts as one block. -/
def sizes (fs : FileSystem) (paths : List Path) : List (Path × Nat) :=
  paths.filterMap fun path =>
    match fs.entry path with
    | .ok (.file content _) => some (path, content.size)
    | .ok .directory => some (path, 4096)
    | .error _ => none

end TsWorkshop.Build
