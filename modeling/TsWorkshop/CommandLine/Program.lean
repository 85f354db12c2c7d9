import TsWorkshop.CommandLine.Parse
import TsWorkshop.CommandLine.Run
import TsWorkshop.Log.Filter

/-!
The program as a whole: from the arguments to an exit code, what is printed, the log and the files.
-/

namespace TsWorkshop.Program

/-- The name under which the program is started. -/
def name : String := "tanuki"

/-- What a run leaves behind. -/
structure Outcome where
  code : Nat
  /-- What is printed, for other programs to read. -/
  stdout : String := ""
  /-- The lines of the log. -/
  log : List String := []
  /-- What is shown to the user. -/
  screen : String := ""
  halt : Option Halt := none
  files : FileSystem

/-- Runs the program on a host whose terminal may show colours. Code 2 stands for a command line
that was refused. -/
def run (host : Host) (isTerminal : Bool) (files : FileSystem) (args : List String) : Outcome :=
  match CommandLine.ofArgv (name :: args) with
  | .error (.help text) | .error (.version text) => { code := 0, stdout := text, files }
  | .error _ => { code := 2, files }
  | .ok c =>
    let colors := Terminal.colors c.noColor host.environment isTerminal
    let filter := LogFilter.choose c.verbose c.quiet (host.environment.get? "RUST_LOG")
    let (result, progress) := c.run { host with colors } { files }
    let log := (progress.events.filter filter.allows).map Event.line
    match result with
    | .ok _ => { code := 0, log, screen := progress.screen, files := progress.files }
    | .error halt =>
      { code := halt.code, log, screen := progress.screen, halt := some halt
        files := progress.files }

end TsWorkshop.Program
