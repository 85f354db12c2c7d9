import TsWorkshop.Process.Launch
import TsWorkshop.Script.Pattern
import TsWorkshop.Script.Syntax
import TsWorkshop.Text.Utf8

/-!
The state of a running script, its streams, and the ways in which it is left.
-/

namespace TsWorkshop.Script

/-- Where a stream leads. -/
inductive Sink where
  | stdout | stderr
  /-- A file, at whose end is written. -/
  | file (path : Path)
  | closed
  deriving DecidableEq, Repr

/-- What surrounds a command. -/
structure Scope where
  /-- The name of the script. -/
  name : String
  /-- Where output and complaints lead. -/
  output : Sink := .stdout
  complaints : Sink := .stderr
  /-- The code of the command decides about what follows, and is no failure of the script. -/
  tested : Bool := false
  deriving DecidableEq, Repr

structure State where
  files : FileSystem
  stdout : ByteArray := .empty
  stderr : ByteArray := .empty
  /-- What can still be read. -/
  input : List Char := []
  bindings : Assoc String
  /-- The names of the variables that started programs see. -/
  exported : List String
  args : List String
  /-- The code of the last command. -/
  status : Nat := 0
  cwd : Path
  /-- The line of the current command. -/
  line : Nat := 1
  functions : Assoc Command := []
  /-- Whether the command is part of a function. -/
  inFunction : Bool := false
  /-- What the local variables of the current function were before. -/
  hidden : Assoc (Option String) := []
  /-- A command that fails ends the script, unless its code is tested. -/
  strict : Bool := false

namespace State

/-- Sets a variable by `name=value`; a name alone sets nothing. -/
def declared (s : State) (arg : String) : State :=
  let name := arg.toList.takeWhile (· != '=')
  match arg.toList.drop name.length with
  | _ :: value =>
    { s with bindings := s.bindings.put (String.ofList name) (String.ofList value) }
  | [] => s

/-- Lets started programs see the variable of `name=value`. -/
def exporting (s : State) (arg : String) : State :=
  { s with exported := String.ofList (arg.toList.takeWhile (· != '=')) :: s.exported }

/-- Keeps the value of the variable of `name=value` for the end of the function. -/
def shadowing (s : State) (arg : String) : State :=
  let name := String.ofList (arg.toList.takeWhile (· != '='))
  if s.hidden.has name then s else { s with hidden := s.hidden.put name (s.bindings.get? name) }

/-- Gives hidden variables their values back. -/
def revealed (s : State) (hidden : Assoc (Option String)) : State :=
  { s with bindings := hidden.foldl (fun bindings (name, value) =>
      match value with
      | some value => bindings.put name value
      | none => bindings.erase name) s.bindings }

/-- Sets options and arguments. -/
def configured (s : State) : List String → State
  | [] => s
  | "--" :: args => { s with args }
  | first :: rest =>
    match first.toList with
    | '-' :: flags => ({ s with strict := s.strict || flags.contains 'e' } : State).configured rest
    | '+' :: flags => ({ s with strict := s.strict && !flags.contains 'e' } : State).configured rest
    | _ => { s with args := first :: rest }

/-- The characters at which values are split. -/
def separators (s : State) : List Char :=
  match s.bindings.get? "IFS" with
  | some chars => chars.toList
  | none => [' ', '\t', '\n']

/-- The file of the program that a name stands for. -/
def findProgram? (s : State) (program : String) : Option Path :=
  if program.toList.contains '/' then some (s.cwd.join program)
  else
    ((Text.split ':' ((s.bindings.get? "PATH").getD "")).map fun directory =>
      (s.cwd.join directory).join program).find? s.files.isFile

end State

/-- Why the commands that follow are not run. -/
inductive Stop where
  | exited (code : Nat)
  /-- A function was left. -/
  | returned (code : Nat)
  | killed (signal : Nat)
  | broke (loops : Nat)
  | continued (loops : Nat)
  /-- The script took too many steps. -/
  | spent
  deriving DecidableEq, Repr

/-- Running a part of a script. -/
abbrev Run (α : Type) := ExceptT Stop (StateM State) α

namespace Run

def setStatus (code : Nat) : Run Unit := modify fun s => { s with status := code }

/-- Writes bytes to where a stream leads. -/
def write (sink : Sink) (bytes : List UInt8) : Run Unit :=
  modify fun s =>
    let added : ByteArray := ⟨bytes.toArray⟩
    match sink with
    | .stdout => { s with stdout := s.stdout ++ added }
    | .stderr => { s with stderr := s.stderr ++ added }
    | .closed => s
    | .file path =>
      match s.files.read path with
      | .error _ => s
      | .ok content =>
        match s.files.write path (content ++ added) with
        | .ok files => { s with files }
        | .error _ => s

/-- Ends a strict script when a command has failed whose code is not tested. -/
def checkStatus (scope : Scope) : Run Unit := do
  let s ← get
  if s.strict && !scope.tested && s.status ≠ 0 then throw (.exited s.status)

/-- Complains about a command. -/
def complain (scope : Scope) (message : String) : Run Unit := do
  write scope.complaints
    (scope.name ++ ": " ++ toString (← get).line ++ ": " ++ message ++ "\n").toUTF8.toList

/-- The variables that started programs see. -/
def environment : Run Environment := do
  let s ← get
  return s.bindings.filter fun (name, _) => s.exported.contains name

end Run

/-- The process number that scripts are shown. -/
def processNumber : Nat := 4242

/-- The value of a parameter with a single text for its value. -/
def State.parameter? (s : State) (scriptName name : String) : Option String :=
  match name with
  | "#" => some (toString s.args.length)
  | "?" => some (toString s.status)
  | "$" => some (toString processNumber)
  | "!" => none
  | "-" => some ""
  | "0" => some scriptName
  | name =>
    if name.toList.all Char.isDigit then s.args[Text.digitsValue 0 name.toList - 1]?
    else s.bindings.get? name

end TsWorkshop.Script
