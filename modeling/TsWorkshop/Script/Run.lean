import TsWorkshop.Script.Arithmetic
import TsWorkshop.Script.Builtin
import TsWorkshop.Script.Field
import TsWorkshop.Script.Reader
import TsWorkshop.Script.State

/-!
Running scripts. Every part of a run is bounded by a number of steps; a script that exceeds it is
ended.
-/

namespace TsWorkshop.Script

/-- The wording of a failure to open a file. -/
def openFailure (e : IoError) (making : Bool) : String :=
  match e with
  | .notFound | .notADirectory => if making then "Directory nonexistent" else "No such file"
  | .isADirectory => "Is a directory"
  | .permissionDenied => "Permission denied"
  | e => e.message

/-- Opens the target of a redirection. -/
def openTarget (path : Path) (mode : RedirectMode) (fs : FileSystem) : Except IoError FileSystem :=
  match mode with
  | .replace => fs.write path .empty
  | .append =>
    match fs.read path with
    | .ok content => fs.write path content
    | .error .notFound => fs.write path .empty
    | .error e => .error e
  | .read | .duplicate =>
    match fs.read path with
    | .ok _ => .ok fs
    | .error e => .error e

/-- Leads a stream to a sink. -/
def Scope.lead (scope : Scope) (stream : Nat) (sink : Sink) : Scope :=
  match stream with
  | 1 => { scope with output := sink }
  | 2 => { scope with complaints := sink }
  | _ => scope

/-- Where the stream with a number leads. -/
def Scope.sink (scope : Scope) (number : String) : Sink :=
  match number with
  | "1" => scope.output
  | "2" => scope.complaints
  | _ => .closed

/-- The script that a file holds, by its first line: the interpreter and the content. -/
def interpreter? (content : ByteArray) : Option Path :=
  match (Text.ofBytes content).toList with
  | '#' :: '!' :: rest =>
    let line := (rest.takeWhile (· != '\n')).dropWhile fun c => c = ' ' || c = '\t'
    some (String.ofList (line.takeWhile fun c => c != ' ' && c != '\t'))
  | _ => none

/-- The place of the shell. -/
def shellPlace : Place := ["bin", "sh"]

/-- The arguments of the shell itself: its name for the script, the script, and its arguments. -/
def shellScript (fs : FileSystem) (cwd : Path) (name : String) :
    List String → Except Output (String × String × List String)
  | "-c" :: text :: zero :: args => .ok (zero, text, args)
  | "-c" :: [text] => .ok (name, text, [])
  | "-c" :: [] =>
    .error ⟨.exited 2, .empty, (name ++ ": 0: -c requires an argument\n").toUTF8⟩
  | [] => .ok (name, "", [])
  | file :: args =>
    match fs.read (cwd.join file) with
    | .ok content => .ok (file, Text.ofBytes content, args)
    | .error e =>
      .error ⟨.exited 2, .empty,
        (name ++ ": 0: cannot open " ++ file ++ ": " ++ openFailure e false ++ "\n").toUTF8⟩

/-- The status of a process that ended with a code or by a signal. -/
def statusOf : Stop → ExitStatus
  | .exited code | .returned code => .exited (code % 256)
  | .killed signal => .signaled signal false
  | .broke _ | .continued _ => .exited 0
  | .spent => .exited 1

/-- The code that a shell shows for the status of a program. -/
def codeOf : ExitStatus → Nat
  | .exited code => code
  | .signaled n _ => 128 + n
  | _ => 1

mutual

/-- The parts of a word. -/
def expand (scope : Scope) : Nat → Bool → List Piece → Run (List Part)
  | 0, _, _ => throw .spent
  | _, _, [] => return []
  | steps + 1, quoted, piece :: rest => do
    let parts ← (match piece with
      | .text s inQuotes =>
        return (if inQuotes || quoted then [.quotes] else []) ++
          s.toList.map fun c => Part.char c (inQuotes || quoted)
      | .parameter x use word inQuotes => parameter scope steps (inQuotes || quoted) x use word
      | .arithmetic expression inQuotes => do
        let text := textOf (← expand scope steps true expression)
        match Arithmetic.evaluate (← get).bindings text with
        | some (n, bindings) => do
          modify fun s => { s with bindings }
          return partsOf ((← get).separators) (inQuotes || quoted) (toString n)
        | none => do
          Run.complain scope ("arithmetic expression: expecting EOF: \"" ++ text ++ "\"")
          throw (.exited 2)
      | .output body inQuotes => do
        let text ← captured scope steps body
        return partsOf ((← get).separators) (inQuotes || quoted) (chomp text))
    return parts ++ (← expand scope steps quoted rest)
termination_by structural steps => steps

/-- The parts of a parameter. -/
def parameter (scope : Scope) : Nat → Bool → String → ParameterUse →
    List Piece → Run (List Part)
  | 0, _, _, _, _ => throw .spent
  | steps + 1, inQuotes, x, use, word => do
    let s ← get
    let seps := s.separators
    let isList := x = "@" || x = "*"
    let value? :=
      if isList then if s.args.isEmpty then none else some (Text.join " " s.args)
      else s.parameter? scope.name x
    let value := value?.getD ""
    let own : List Part :=
      if x = "@" || (x = "*" && !inQuotes) then partsOfArgs seps inQuotes s.args
      else partsOf seps inQuotes value
    let isSet (emptyToo : Bool) : Bool :=
      match value? with
      | none => false
      | some v => !(emptyToo && v = "")
    match use with
    | .value => return own
    | .length =>
      let n := if isList then s.args.length else value.toList.length
      return partsOf seps inQuotes (toString n)
    | .orElse emptyToo =>
      if isSet emptyToo then return own else expand scope steps inQuotes word
    | .ifSet emptyToo =>
      if isSet emptyToo then expand scope steps inQuotes word
      else return if inQuotes then [.quotes] else []
    | .orAssign emptyToo =>
      if isSet emptyToo then return own
      else do
        let text := textOf (← expand scope steps inQuotes word)
        modify fun s => { s with bindings := s.bindings.put x text }
        return partsOf seps inQuotes text
    | .orFail emptyToo =>
      if isSet emptyToo then return own
      else do
        let text := textOf (← expand scope steps inQuotes word)
        Run.complain scope (x ++ ": " ++ (if text = "" then "parameter not set" else text))
        throw (.exited 2)
    | .cutStart longest => do
      let pattern := patternOf (← expand scope steps false word)
      return partsOf seps inQuotes (String.ofList (cutStart longest pattern value.toList))
    | .cutEnd longest => do
      let pattern := patternOf (← expand scope steps false word)
      return partsOf seps inQuotes (String.ofList (cutEnd longest pattern value.toList))
termination_by structural steps => steps

/-- The fields of words. -/
def fields (scope : Scope) : Nat → List (List Piece) → Run (List String)
  | 0, _ => throw .spent
  | _, [] => return []
  | steps + 1, word :: rest => do
    let parts ← expand scope steps false word
    let s ← get
    let found := (fieldsOf none parts).flatMap (pathsOf s.files s.cwd)
    return found ++ (← fields scope steps rest)
termination_by structural steps => steps

/-- Runs a command on a copy of the state, of which only the files and what was printed are kept. -/
def inSubshell (scope : Scope) : Nat → Command → Run Unit
  | 0, _ => throw .spent
  | steps + 1, body => do
    let outer ← get
    let code ← (fun (s : State) =>
      match (exec scope steps body).run s with
      | (.ok (), s) => (.ok s.status, s)
      | (.error (.exited code), s) | (.error (.returned code), s) => (.ok code, s)
      | (.error (.broke _), s) | (.error (.continued _), s) => (.ok s.status, s)
      | (.error stop, s) => (.error stop, s) : Run Nat)
    modify fun s =>
      { outer with files := s.files, stdout := s.stdout, stderr := s.stderr, status := code }
termination_by structural steps => steps

/-- What a command prints. -/
def captured (scope : Scope) : Nat → Command → Run String
  | 0, _ => throw .spent
  | steps + 1, body => do
    let before := (← get).stdout
    modify fun s => { s with stdout := .empty }
    inSubshell { scope with output := .stdout, tested := false } steps body
    let text := Text.ofBytes (← get).stdout
    modify fun s => { s with stdout := before }
    return text
termination_by structural steps => steps

/-- Opens the targets of redirections; `none` if one of them cannot be opened. -/
def redirect : Nat → Scope → List Redirect → Run (Option Scope)
  | 0, _, _ => throw .spent
  | _, scope, [] => return some scope
  | steps + 1, scope, .mk stream mode target :: rest => do
    let text := textOf (← expand scope steps false target)
    match mode with
    | .duplicate => redirect steps (scope.lead stream (scope.sink text)) rest
    | mode => do
      let s ← get
      let path := s.cwd.join text
      if path = "/dev/null" then
        redirect steps (scope.lead stream .closed) rest
      else
        match openTarget path mode s.files with
        | .ok files => do
          set { s with files }
          if mode = .read then
            let content := (files.read path).toOption.getD .empty
            modify fun s => { s with input := (Text.ofBytes content).toList }
            redirect steps scope rest
          else redirect steps (scope.lead stream (.file path)) rest
        | .error e => do
          let making := mode ≠ .read
          Run.complain scope
            ((if making then "cannot create " else "cannot open ") ++ text ++ ": " ++
              openFailure e making)
          return none
termination_by structural steps => steps

/-- Sets variables, one after another. -/
def assign (scope : Scope) : Nat → List (String × List Piece) → Run Unit
  | 0, _ => throw .spent
  | _, [] => return ()
  | steps + 1, (x, word) :: rest => do
    let text := textOf (← expand scope steps true word)
    modify fun s => { s with bindings := s.bindings.put x text }
    assign scope steps rest
termination_by structural steps => steps

/-- Starts a program that a command names; the answer is its code. `asker` is what a complaint about
the program starts with. -/
def external (scope : Scope) (asker : String) : Nat → String → List String → Run Nat
  | 0, _, _ => throw .spent
  | steps + 1, program, args => do
    let s ← get
    let environment ← Run.environment
    let refuse (code : Nat) (message : String) : Run Nat := do
      Run.complain scope (asker ++ program ++ ": " ++ message)
      return code
    let finish (output : Output) (files : FileSystem) : Run Nat := do
      set { s with files }
      Run.write scope.output output.stdout.toList
      Run.write scope.complaints output.stderr.toList
      return codeOf output.status
    match s.findProgram? program with
    | none => refuse 127 "not found"
    | some path =>
      let launch : Launch := { program := path, args, cwd := s.cwd, environment }
      match start steps launch s.files with
      | (.ok output, files) => finish output files
      | (.error .execFormat, files) =>
        let content := (files.read path).toOption.getD .empty
        let (output, files) := runScript steps path (Text.ofBytes content) args launch files
        finish output files
      | (.error .notFound, _) => refuse 127 "not found"
      | (.error e, _) => refuse 126 (openFailure e false)
termination_by structural steps => steps

/-- Runs a command with its arguments; the answer is its code. -/
def invoke (scope : Scope) : Nat → String → List String → Run Nat
  | 0, _, _ => throw .spent
  | steps + 1, program, args => do
    match (← get).functions.get? program, program, args with
    | some body, _, args => call scope steps body args
    | none, "eval", args => do
      let s ← get
      lines scope steps ⟨s.line, (Text.join " " args).toList⟩
      return (← get).status
    | none, "exec", inner :: args => do
      let code ← external scope "exec: " steps inner args
      throw (.exited code)
    | none, "command", "-v" :: names => describe scope false names
    | none, "type", names => describe scope true names
    | none, "exec", [] | none, "command", [] => return 0
    | none, "command", inner :: args =>
      match plainBuiltin? scope inner args with
      | some builtin => builtin
      | none => external scope "" steps inner args
    | none, program, args =>
      match plainBuiltin? scope program args with
      | some builtin => builtin
      | none => external scope "" steps program args
termination_by structural steps => steps

/-- Calls a function; the answer is its code. -/
def call (scope : Scope) : Nat → Command → List String → Run Nat
  | 0, _, _ => throw .spent
  | steps + 1, body, args => do
    let outer ← get
    set { outer with args, inFunction := true, hidden := [] }
    let code ← (fun (s : State) =>
      match (exec scope steps body).run s with
      | (.ok (), s) => (.ok s.status, s)
      | (.error (.returned code), s) => (.ok code, s)
      | (.error stop, s) => (.error stop, s) : Run Nat)
    modify fun s =>
      { s.revealed s.hidden with
        args := outer.args, inFunction := outer.inFunction, hidden := outer.hidden
        line := outer.line }
    return code
termination_by structural steps => steps

/-- Runs a simple command. -/
def simple (scope : Scope) : Nat → List (String × List Piece) → List (List Piece) →
    List Redirect → Run Unit
  | 0, _, _, _ => throw .spent
  | steps + 1, assignments, words, rs => do
    let before := (← get).status
    match ← fields scope steps words with
    | [] => do
      Run.setStatus (if words.isEmpty && assignments.isEmpty then before else 0)
      assign scope steps assignments
      match ← redirect steps scope rs with
      | none => Run.setStatus 2
      | some _ => return ()
    | program :: args => do
      match ← redirect steps scope rs with
      | none => Run.setStatus 2
      | some scope => do
        let s ← get
        assign scope steps assignments
        modify fun s => { s with exported := assignments.map Prod.fst ++ s.exported }
        Run.setStatus before
        Run.setStatus (← invoke scope steps program args)
        if !assignments.isEmpty then
          modify fun after => { after with bindings := s.bindings, exported := s.exported }
termination_by structural steps => steps

/-- Runs a command. -/
def exec (scope : Scope) : Nat → Command → Run Unit
  | 0, _ => throw .spent
  | steps + 1, c =>
    match c with
    | .skip => return ()
    | .sequence first second => do
      exec scope steps first
      exec scope steps second
    | .andThen first second => do
      exec { scope with tested := true } steps first
      if (← get).status = 0 then exec scope steps second
    | .orElse first second => do
      exec { scope with tested := true } steps first
      if (← get).status ≠ 0 then exec scope steps second
    | .negated body => do
      exec { scope with tested := true } steps body
      Run.setStatus (if (← get).status = 0 then 1 else 0)
    | .pipe first second => do
      let printed ← captured scope steps first
      let before := (← get).input
      modify fun s => { s with input := printed.toList }
      inSubshell scope steps second
      modify fun s => { s with input := before }
      Run.checkStatus scope
    | .redirected line subshell body rs => do
      modify fun s => { s with line }
      match ← redirect steps scope rs with
      | none => Run.setStatus 2
      | some inner =>
        if subshell then
          inSubshell inner steps body
          Run.checkStatus scope
        else exec inner steps body
    | .choice condition thenBody elseBody => do
      exec { scope with tested := true } steps condition
      if (← get).status = 0 then exec scope steps thenBody
      else do
        Run.setStatus 0
        exec scope steps elseBody
    | .loop whileFails condition body => do
      Run.setStatus 0
      repeated scope steps whileFails condition body 0
    | .forEach x words body => do
      let values ← (match words with
        | some words => fields scope steps words
        | none => return (← get).args)
      Run.setStatus 0
      forEach scope steps x values body
    | .caseOf word arms => do
      let text := textOf (← expand scope steps true word)
      Run.setStatus 0
      choose scope steps text arms
    | .define name body => do
      modify fun s => { s with functions := s.functions.put name body }
      Run.setStatus 0
    | .simple line assignments words rs => do
      modify fun s => { s with line }
      simple scope steps assignments words rs
      Run.checkStatus scope
termination_by structural steps => steps

/-- The body of a loop, run once; the answer says whether the loop goes on. -/
def loopBody (scope : Scope) : Nat → Command → Run Bool
  | 0, _ => throw .spent
  | steps + 1, body =>
    fun (s : State) =>
      match (exec scope steps body).run s with
      | (.ok (), s) => (.ok true, s)
      | (.error (.broke n), s) => if n ≤ 1 then (.ok false, s) else (.error (.broke (n - 1)), s)
      | (.error (.continued n), s) =>
        if n ≤ 1 then (.ok true, s) else (.error (.continued (n - 1)), s)
      | (.error stop, s) => (.error stop, s)
termination_by structural steps => steps

/-- Repeats a body; `last` is the code of its last run. -/
def repeated (scope : Scope) :
    Nat → Bool → Command → Command → Nat → Run Unit
  | 0, _, _, _, _ => throw .spent
  | steps + 1, whileFails, condition, body, last => do
    exec { scope with tested := true } steps condition
    if ((← get).status = 0) = whileFails then Run.setStatus last
    else if ← loopBody scope steps body then
      repeated scope steps whileFails condition body (← get).status
    else Run.setStatus 0
termination_by structural steps => steps

/-- Runs a body for each of some values. -/
def forEach (scope : Scope) : Nat → String → List String → Command → Run Unit
  | 0, _, _, _ => throw .spent
  | _, _, [], _ => return ()
  | steps + 1, x, value :: rest, body => do
    modify fun s => { s with bindings := s.bindings.put x value }
    if ← loopBody scope steps body then forEach scope steps x rest body
    else Run.setStatus 0
termination_by structural steps => steps

/-- Runs the first arm with a pattern that matches. -/
def choose (scope : Scope) :
    Nat → String → List (List (List Piece) × Command) → Run Unit
  | 0, _, _ => throw .spent
  | _, _, [] => return ()
  | steps + 1, text, (patterns, body) :: rest => do
    if ← matchesAny scope steps text patterns then exec scope steps body
    else choose scope steps text rest
termination_by structural steps => steps

/-- Whether one of some patterns matches. -/
def matchesAny (scope : Scope) : Nat → String → List (List Piece) → Run Bool
  | 0, _, _ => throw .spent
  | _, _, [] => return false
  | steps + 1, text, pattern :: rest => do
    let pattern := patternOf (← expand scope steps false pattern)
    if matchesPattern pattern text.toList then return true
    else matchesAny scope steps text rest
termination_by structural steps => steps

/-- Reads and runs the commands of a script, line by line. -/
def lines (scope : Scope) : Nat → Cursor → Run Unit
  | 0, _ => throw .spent
  | steps + 1, cursor =>
    match nextLine cursor with
    | .error located => do
      modify fun s => { s with line := located.line }
      Run.complain scope located.fault.message
      throw (.exited 2)
    | .ok none => return ()
    | .ok (some (command, behind)) => do
      exec scope steps command
      lines scope steps behind
termination_by structural steps => steps

/-- Runs a script in a process of its own. -/
def runScript : Nat → String → String → List String → Launch → FileSystem → Output × FileSystem
  | 0, _, _, _, _, files => (⟨.exited 1, .empty, .empty⟩, files)
  | steps + 1, name, text, args, launch, files =>
    let cwd := match files.locate launch.cwd with
      | .ok place => "/" ++ Text.join "/" place
      | .error _ => launch.cwd
    let state : State :=
      { files, args, cwd, bindings := launch.environment.put "PWD" cwd
        exported := "PWD" :: launch.environment.map Prod.fst }
    let (result, s) := (lines { name } steps ⟨1, text.toList⟩).run state
    let status := match result with
      | .ok () => .exited (s.status % 256)
      | .error stop => statusOf stop
    (⟨status, s.stdout, s.stderr⟩, s.files)
termination_by structural steps => steps

/-- Starts a program: the shell itself, or a script that names the shell as its interpreter. -/
def start : Nat → Launch → FileSystem → Except IoError Output × FileSystem
  | 0, _, files => (.ok ⟨.exited 1, .empty, .empty⟩, files)
  | steps + 1, launch, files =>
    match files.entry launch.cwd, files.locate (launch.cwd.join launch.program),
        files.entry (launch.cwd.join launch.program) with
    | .error e, _, _ => (.error e, files)
    | .ok (.file _ _), _, _ => (.error .notADirectory, files)
    | .ok .directory, .error e, _ | .ok .directory, .ok _, .error e => (.error e, files)
    | .ok .directory, .ok _, .ok .directory => (.error .permissionDenied, files)
    | .ok .directory, .ok place, .ok (.file content executable) =>
      if !executable then (.error .permissionDenied, files)
      else if place = shellPlace then
        match shellScript files launch.cwd launch.program launch.args with
        | .error output => (.ok output, files)
        | .ok (name, text, args) =>
          let (output, files) := runScript steps name text args launch files
          (.ok output, files)
      else
        match interpreter? content with
        | none => (.error .execFormat, files)
        | some interpreter =>
          match files.locate (launch.cwd.join interpreter) with
          | .error e => (.error e, files)
          | .ok place =>
            if place = shellPlace then
              let (output, files) :=
                runScript steps launch.program (Text.ofBytes content) launch.args launch files
              (.ok output, files)
            else (.error .notFound, files)
termination_by structural steps => steps

end

/-- The number of steps that a program may take. -/
def stepLimit : Nat := 100000

/-- Programs that are shell scripts. -/
def launcher : Launcher := start stepLimit

end TsWorkshop.Script
