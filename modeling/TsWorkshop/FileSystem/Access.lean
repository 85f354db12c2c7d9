import TsWorkshop.FileSystem.Basic
import TsWorkshop.Error

/-!
Access by paths. A path is followed name by name from the root: each name but the last one must be
that of a directory, `.` stays where it is and `..` goes one directory up.
-/

namespace TsWorkshop

namespace Path

/-- The names of a path in order, `.` and `..` among them. -/
def names (path : Path) : List String :=
  (path.pieces.filter fun piece => !piece.isEmpty).map String.ofList

/-- A path that ends in a slash stands for a directory. -/
def demandsDirectory (path : Path) : Bool := path.toList.getLast? = some '/'

end Path

namespace FileSystem

/-- Follows names from a directory. The last name need not have an entry. -/
def follow (fs : FileSystem) (start : Place) : List String → Except IoError Place
  | [] => .ok start
  | name :: rest =>
    if name = "." then follow fs start rest
    else if name = ".." then follow fs start.dropLast rest
    else if rest.isEmpty then .ok (start ++ [name])
    else
      match fs.get? (start ++ [name]) with
      | some .directory => follow fs (start ++ [name]) rest
      | some (.file _ _) => .error .notADirectory
      | none => .error .notFound

/-- The place that a path leads to. -/
def locate (fs : FileSystem) (path : Path) : Except IoError Place :=
  if path.toList.isEmpty then .error .notFound else fs.follow [] path.names

/-- The entry that a path leads to. -/
def entry (fs : FileSystem) (path : Path) : Except IoError Entry := do
  let place ← fs.locate path
  match fs.get? place with
  | none => throw .notFound
  | some (.file content executable) =>
    if path.demandsDirectory then throw .notADirectory else return .file content executable
  | some .directory => return .directory

def pathExists (fs : FileSystem) (path : Path) : Bool := (fs.entry path).isOk

def isFile (fs : FileSystem) (path : Path) : Bool :=
  match fs.entry path with
  | .ok e => e.isFile
  | .error _ => false

def isDirectory (fs : FileSystem) (path : Path) : Bool :=
  match fs.entry path with
  | .ok e => e.isDirectory
  | .error _ => false

/-- The content of a file. -/
def read (fs : FileSystem) (path : Path) : Except IoError ByteArray := do
  match ← fs.entry path with
  | .file content _ => return content
  | .directory => throw .isADirectory

/-- The content of a file as text. -/
def readText (fs : FileSystem) (path : Path) : Except IoError String := do
  match String.fromUTF8? (← fs.read path) with
  | some text => return text
  | none => throw .invalidUtf8

/-- Replaces the content of a file, which is made if its directory is there. -/
def write (fs : FileSystem) (path : Path) (content : ByteArray) : Except IoError FileSystem := do
  let place ← fs.locate path
  match fs.get? place with
  | some .directory => throw .isADirectory
  | some (.file _ executable) =>
    if path.demandsDirectory then throw .notADirectory
    else return fs.put place (.file content executable)
  | none =>
    if path.demandsDirectory then throw .isADirectory else return fs.put place (.file content false)

/-- Makes a file executable. -/
def makeExecutable (fs : FileSystem) (path : Path) : Except IoError FileSystem := do
  let place ← fs.locate path
  match fs.get? place with
  | some (.file content _) => return fs.put place (.file content true)
  | _ => throw .notFound

/-- Makes a directory in one that is there. -/
def makeDirectory (fs : FileSystem) (path : Path) : Except IoError FileSystem := do
  let place ← fs.locate path
  match fs.get? place with
  | some _ => throw .alreadyExists
  | none => return fs.put place .directory

/-- Makes a directory and the missing ones above it. The paths are the directory's and those of the
ones above it, from below. What was made before a refusal stays. -/
def makeDirectoriesOf (fs : FileSystem) : List Path → Except IoError Unit × FileSystem
  | [] => (.error (.other "failed to create whole tree"), fs)
  | path :: parents =>
    if path.toList.isEmpty then (.ok (), fs)
    else
      match fs.makeDirectory path with
      | .ok fs => (.ok (), fs)
      | .error .notFound =>
        match fs.makeDirectoriesOf parents with
        | (.error e, fs) => (.error e, fs)
        | (.ok (), fs) =>
          match fs.makeDirectory path with
          | .ok fs => (.ok (), fs)
          | .error e => (if fs.isDirectory path then .ok () else .error e, fs)
      | .error e => (if fs.isDirectory path then .ok () else .error e, fs)

/-- Makes a directory and the missing ones above it, as far as that is not refused; a directory that
is there is kept. -/
def provideDirectory (fs : FileSystem) (path : Path) : Except IoError Unit × FileSystem :=
  fs.makeDirectoriesOf path.ancestors

/-- The files once a directory and the missing ones above it are made. -/
def makeDirectories (fs : FileSystem) (path : Path) : Except IoError FileSystem :=
  match fs.provideDirectory path with
  | (.ok (), fs) => .ok fs
  | (.error e, _) => .error e

/-- Removes a file. -/
def removeFile (fs : FileSystem) (path : Path) : Except IoError Unit × FileSystem :=
  match fs.locate path with
  | .error e => (.error e, fs)
  | .ok place =>
    match fs.get? place with
    | some (.file _ _) =>
      if path.demandsDirectory then (.error .notADirectory, fs) else (.ok (), fs.erase place)
    | some .directory => (.error .isADirectory, fs)
    | none => (.error .notFound, fs)

/-- Removes a directory with everything in it. The directory itself is looked up again once all that
was below it is gone; that its path leads nowhere by then is no error. -/
def removeDirectory (fs : FileSystem) (path : Path) : Except IoError Unit × FileSystem :=
  match fs.locate path with
  | .error e => (.error e, fs)
  | .ok place =>
    match fs.get? place with
    | some .directory =>
      let rest := fs.eraseBelow place
      match rest.locate path with
      | .ok place => (.ok (), rest.erase place)
      | .error .notFound => (.ok (), rest)
      | .error e => (.error e, rest)
    | some (.file _ _) => (.error .notADirectory, fs)
    | none => (.error .notFound, fs)

/-- Removes what a path leads to. -/
def removeEntry (fs : FileSystem) (path : Path) : Except IoError Unit × FileSystem :=
  if fs.isDirectory path then fs.removeDirectory path else fs.removeFile path

/-- Removes what stands in a directory under some names, one after the other. Each is looked up from
the directory's path anew, and the first refusal is the last step. -/
def removeEntries (fs : FileSystem) (directory : Path) :
    List String → Except IoError Unit × FileSystem
  | [] => (.ok (), fs)
  | name :: rest =>
    let step := fs.removeEntry (directory.join name)
    if step.1.isOk then removeEntries step.2 directory rest else step

/-- Removes all that a directory lists, as far as that is not refused. -/
def emptyDirectory (fs : FileSystem) (path : Path) : Except IoError Unit × FileSystem :=
  match fs.locate path with
  | .error e => (.error e, fs)
  | .ok place =>
    match fs.get? place with
    | some .directory => fs.removeEntries path (fs.children place)
    | some (.file _ _) => (.error .notADirectory, fs)
    | none => (.error .notFound, fs)

/-- Removes a file, or a directory with everything in it. -/
def remove (fs : FileSystem) (path : Path) : Except IoError FileSystem := do
  let place ← fs.locate path
  match fs.get? place with
  | some _ => return fs.erase place
  | none => throw .notFound

end FileSystem

end TsWorkshop
