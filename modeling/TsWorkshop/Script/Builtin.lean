import TsWorkshop.Script.Condition
import TsWorkshop.Script.Printing
import TsWorkshop.Script.State

/-!
The commands that the shell runs itself, those left out that need to run other commands.
-/

namespace TsWorkshop.Script

/-- The signals that scripts may name. -/
def signalNumber? (name : String) : Option Nat :=
  let plain := (Text.stripStart? "SIG" name).getD name
  if !plain.toList.isEmpty && plain.toList.all Char.isDigit then
    some (Text.digitsValue 0 plain.toList)
  else
    (ExitStatus.signalNames.findIdx? fun s => s = "SIG" ++ plain).map (· + 1)

/-- Signals that do not end a process. -/
def harmlessSignals : List Nat := [0, 17, 18, 23, 28]

/-- Builtins that need nothing but their arguments. The answer is the code. -/
def plainBuiltin? (scope : Scope) (name : String) (args : List String) : Option (Run Nat) :=
  let complain (message : String) : Run Unit := Run.complain scope message
  let decide (args : List String) : Run Nat := do
    let s ← get
    match test ⟨s.files, s.cwd⟩ args with
    | .ok b => return if b then 0 else 1
    | .error message => do
      complain (name ++ ": " ++ message)
      return 2
  match name with
  | ":" | "true" | "trap" | "umask" | "wait" => some (return 0)
  | "false" => some (return 1)
  | "echo" => some do
    Run.write scope.output (echo args)
    return 0
  | "printf" => some (match args with
    | format :: args => do
      let printed := printf format args
      Run.write scope.output printed.bytes
      for message in printed.complaints do complain ("printf: " ++ message)
      return printed.code
    | [] => do
      complain "printf: usage: printf format [arg ...]"
      return 2)
  | "test" => some (decide args)
  | "[" => some (
    if args.getLast? = some "]" then decide args.dropLast
    else do
      complain "[: missing ]"
      return 2)
  | "exit" | "return" => some do
    let s ← get
    let leave (code : Nat) : Run Nat :=
      throw (if name = "return" && s.inFunction then .returned code else .exited code)
    match args with
    | [] => leave s.status
    | code :: _ =>
      match integer? code with
      | some n => leave (n % 256).toNat
      | none => do
        complain (name ++ ": Illegal number: " ++ code)
        throw (.exited 2)
  | "break" => some (throw (.broke (((args.head?.bind integer?).getD 1).toNat)))
  | "continue" => some (throw (.continued (((args.head?.bind integer?).getD 1).toNat)))
  | "shift" => some do
    let n := ((args.head?.bind integer?).getD 1).toNat
    if (← get).args.length < n then
      complain "shift: can't shift that many"
      throw (.exited 2)
    else
      modify fun s => { s with args := s.args.drop n }
      return 0
  | "pwd" => some do
    Run.write scope.output (bytesOf ((← get).cwd ++ "\n"))
    return 0
  | "cd" => some do
    let s ← get
    let target := args.head?.getD ((s.bindings.get? "HOME").getD "")
    match s.files.locate (s.cwd.join target) with
    | .ok place =>
      let path := "/" ++ Text.join "/" place
      if s.files.isDirectory path then
        set { s with cwd := path, bindings := (s.bindings.put "OLDPWD" s.cwd).put "PWD" path }
        return 0
      else do
        complain ("cd: can't cd to " ++ target)
        return 2
    | .error _ => do
      complain ("cd: can't cd to " ++ target)
      return 2
  | "export" => some do
    modify fun s => args.foldl (fun s arg => (s.declared arg).exporting arg) s
    return 0
  | "readonly" => some do
    modify fun s => args.foldl State.declared s
    return 0
  | "local" => some do
    if !(← get).inFunction then
      complain "local: not in a function"
      throw (.exited 2)
    else
      modify fun s => args.foldl (fun s arg => (s.shadowing arg).declared arg) s
      return 0
  | "unset" => some do
    modify fun s => { s with bindings := args.foldl (fun vs x => vs.erase x) s.bindings }
    return 0
  | "set" => some do
    modify fun s => s.configured args
    return 0
  | "read" => some do
    let s ← get
    if s.input.isEmpty then return 1
    else
      let line := s.input.takeWhile (· != '\n')
      let names := args.filter fun arg => !Text.startsWith "-" arg
      set { s with
        input := s.input.drop (line.length + 1)
        bindings :=
          s.bindings.put (names.head?.getD "REPLY") (String.ofList (Text.trimBlank line)) }
      return 0
  | "kill" => some do
    let (signal, rest) := (match args with
      | "-s" :: name :: rest => (signalNumber? name, rest)
      | first :: rest =>
        match Text.stripStart? "-" first with
        | some name => (signalNumber? name, rest)
        | none => (some 15, first :: rest)
      | [] => (none, []))
    match signal, rest with
    | some n, [target] =>
      if target = toString processNumber then
        if harmlessSignals.contains n then return 0 else throw (.killed n)
      else do
        complain "kill: No such process"
        return 1
    | _, _ => do
      complain ("kill: Usage: kill [-s sigspec | -signum | -sigspec] [pid | job]... or\n" ++
        "kill -l [exitstatus]")
      return 2
  | _ => none

/-- The commands that the shell runs itself. -/
def builtinNames : List String :=
  [":", "true", "false", "echo", "printf", "test", "[", "exit", "return", "break", "continue",
   "shift", "pwd", "cd", "export", "readonly", "local", "unset", "set", "read", "kill", "trap",
   "umask", "wait", "eval", "exec", "command", "type"]

/-- Tells what names stand for; the answer is the code. In sentences also unknown names are told. -/
def describe (scope : Scope) (inSentences : Bool) : List String → Run Nat
  | [] => return 0
  | name :: rest => do
    let s ← get
    let (text, code) :=
      if s.functions.has name then
        (if inSentences then name ++ " is a shell function" else name, 0)
      else if builtinNames.contains name then
        (if inSentences then name ++ " is a shell builtin" else name, 0)
      else
        match s.findProgram? name with
        | some path => (if inSentences then name ++ " is " ++ path else path, 0)
        | none => (if inSentences then name ++ ": not found" else "", 127)
    if text ≠ "" then Run.write scope.output (bytesOf (text ++ "\n"))
    let others ← describe scope inSentences rest
    return if code = 0 then others else code

end TsWorkshop.Script
