import TsWorkshop.Config.Environment
import TsWorkshop.Error
import TsWorkshop.FileSystem.Access

/-!
Starting programs: what a program is given, and what it leaves behind.
-/

namespace TsWorkshop

/-- A program that is started: its file, its arguments, and where it runs. -/
structure Launch where
  program : Path
  args : List String
  cwd : Path
  environment : Environment
  deriving DecidableEq, Repr

/-- What a program leaves behind when it has ended. -/
structure Output where
  status : ExitStatus
  stdout : ByteArray
  stderr : ByteArray

/-- The behaviour of programs: the outcome of a start, and the files afterwards. -/
abbrev Launcher := Launch → FileSystem → Except IoError Output × FileSystem

end TsWorkshop
