import TsWorkshop.FileSystem.Path

/-!
External programs: the command that starts one, and the way one ends.
-/

namespace TsWorkshop

/-- An executable, the arguments that stand before all others, and the name shown in messages. -/
structure Invocation where
  program : Path
  leading : List String
  name : String
  deriving DecidableEq, Repr

namespace Invocation

/-- A program that is started itself. -/
def direct (program : Path) (name : String) : Invocation := ⟨program, [], name⟩

/-- A package's program, started by a package runner. -/
def throughRunner (runner : Path) (name : String) : Invocation := ⟨runner, [name], name⟩

/-- The command as messages show it. -/
def commandLine (invocation : Invocation) (args : List String) : String :=
  args.foldl (fun line arg => line ++ " " ++ arg) invocation.name

end Invocation

/-- The way a program ended. -/
inductive ExitStatus where
  | exited (code : Nat)
  | signaled (number : Nat) (coreDumped : Bool)
  | stopped (number : Nat)
  | continued
  | unrecognized (raw : Nat)
  deriving DecidableEq, Repr

namespace ExitStatus

/-- Reads a wait status: the low seven bits are 0 for an exit, 127 for a stop, else a signal. -/
def ofWait (raw : Nat) : ExitStatus :=
  let low := raw % 128
  if low = 0 then exited (raw / 256 % 256)
  else if low ≠ 127 then signaled low (raw / 128 % 2 = 1)
  else if raw % 256 = 127 then stopped (raw / 256 % 256)
  else if raw = 65535 then continued
  else unrecognized raw

/-- The wait status of an exit with a code. -/
def wait : ExitStatus → Nat
  | exited code => code * 256
  | signaled number coreDumped => number + (if coreDumped then 128 else 0)
  | stopped number => number * 256 + 127
  | continued => 65535
  | unrecognized raw => raw

/-- The names of the signals, from 1 on. -/
def signalNames : List String :=
  ["SIGHUP", "SIGINT", "SIGQUIT", "SIGILL", "SIGTRAP", "SIGABRT", "SIGBUS", "SIGFPE", "SIGKILL",
   "SIGUSR1", "SIGSEGV", "SIGUSR2", "SIGPIPE", "SIGALRM", "SIGTERM", "SIGSTKFLT", "SIGCHLD",
   "SIGCONT", "SIGSTOP", "SIGTSTP", "SIGTTIN", "SIGTTOU", "SIGURG", "SIGXCPU", "SIGXFSZ",
   "SIGVTALRM", "SIGPROF", "SIGWINCH", "SIGIO", "SIGPWR", "SIGSYS"]

/-- A signal with its name, if it has one. -/
def signalText (number : Nat) : String :=
  toString number ++
    (match number with
    | 0 => ""
    | n + 1 =>
      match signalNames[n]? with
      | some name => " (" ++ name ++ ")"
      | none => "")

/-- The text of a status. -/
def text : ExitStatus → String
  | exited code => "exit status: " ++ toString code
  | signaled number coreDumped =>
    "signal: " ++ signalText number ++ (if coreDumped then " (core dumped)" else "")
  | stopped number => "stopped (not terminated) by signal: " ++ signalText number
  | continued => "continued (WIFCONTINUED)"
  | unrecognized raw =>
    "unrecognized wait status: " ++ toString raw ++ " 0x" ++ String.ofList (Text.shortHex raw)

/-- Only an exit with code 0 is a success. -/
def isSuccess (status : ExitStatus) : Bool := status = exited 0

/-- The code of an exit. -/
def code? : ExitStatus → Option Nat
  | exited code => some code
  | _ => none

end ExitStatus

end TsWorkshop
