import TsWorkshop.CommandLine.Help

/-!
Reading a command line. It has two levels: the options before a command, and what follows the
command. A level is read from left to right. An option whose value stands in the next argument is
checked only when the next option, a file or the end of the level is reached; faults of the level of
the command come before faults of the level of the program.
-/

namespace TsWorkshop.CommandLine

/-- Why a command line is not run. -/
inductive Stop where
  | help (text : String)
  | version (text : String)
  /-- Nothing at all was asked for. -/
  | nothingAsked
  | missingCommand
  | unknownCommand
  | unknownArgument
  | tooManyValues
  | invalidValue
  | conflict
  deriving DecidableEq, Repr

/-- What was read of a level. -/
structure Level where
  /-- The options with their values, a flag with the empty one. -/
  given : List (OptionName × String) := []
  /-- The option before the current argument, with its value as soon as that was read. -/
  pending : Option (OptionRule × Option String) := none
  files : List String := []
  /-- Only files follow. -/
  trailing : Bool := false

namespace Level

def has (level : Level) (name : OptionName) : Bool := level.given.any fun (n, _) => n = name

def value? (level : Level) (name : OptionName) : Option String :=
  (level.given.find? fun (n, _) => n = name).map Prod.snd

/-- Enters an option, which may stand only once. -/
def enter (level : Level) (o : OptionRule) (value : String) : Except Stop Level :=
  if level.has o.name then .error .conflict
  else if o.value.all fun (kind, _) => kind.accepts value then
    .ok { level with given := level.given ++ [(o.name, value)] }
  else .error .invalidValue

/-- Checks and enters the pending option. -/
def settle (level : Level) : Except Stop Level :=
  match level.pending with
  | none => .ok level
  | some (_, none) => .error .invalidValue
  | some (o, some value) => { level with pending := none }.enter o value

/-- Whether the next argument is the value of an option, unless it is an option itself. -/
def awaitsValue (level : Level) : Bool :=
  match level.pending with
  | some (_, none) => true
  | _ => false

/-- Reads a flag. -/
def readFlag (rule : CommandRule) (program : String) (isLong : Bool) (level : Level)
    (o : OptionRule) : Except Stop Level := do
  let level ← level.settle
  match o.name with
  | .help => throw (.help (rule.helpText program isLong))
  | .version => throw (.version versionText)
  | _ => level.enter o ""

/-- Reads an option with its value. -/
def readAttached (level : Level) (o : OptionRule) (value : String) : Except Stop Level := do
  (← level.settle).enter o value

/-- Reads an option whose value is to follow. -/
def readDetached (level : Level) (o : OptionRule) : Except Stop Level := do
  return { ← level.settle with pending := some (o, none) }

/-- Reads a long option, `spelling` or `spelling=value`. -/
def readLong (rule : CommandRule) (program : String) (level : Level) (spelling : List Char) :
    Except Stop Level :=
  let long := String.ofList (spelling.takeWhile (· != '='))
  let attached := spelling.dropWhile (· != '=')
  match rule.options.find? fun o => o.long = long || o.aliases.contains long with
  | none => .error .unknownArgument
  | some o =>
    match o.value, attached with
    | some _, _ :: value => level.readAttached o (String.ofList value)
    | some _, [] => level.readDetached o
    | none, _ :: _ => .error .tooManyValues
    | none, [] => level.readFlag rule program true o

/-- Reads a cluster of short options, of which the last may have its value behind it. -/
def readShorts (rule : CommandRule) (program : String) (level : Level) :
    List Char → Except Stop Level
  | [] => .ok level
  | c :: rest =>
    match rule.options.find? fun o => o.short = some c with
    | none => .error .unknownArgument
    | some o =>
      match o.value, rest with
      | none, rest => do (← level.readFlag rule program false o).readShorts rule program rest
      | some _, [] => level.readDetached o
      | some _, '=' :: value => level.readAttached o (String.ofList value)
      | some _, value => level.readAttached o (String.ofList value)

/-- Reads an argument that is no option: the value of the option before it, or a file. -/
def readPlain (rule : CommandRule) (level : Level) (arg : String) : Except Stop Level :=
  match level.trailing, level.pending with
  | false, some (o, none) => .ok { level with pending := some (o, some arg) }
  | _, _ =>
    if rule.files.isSome then do
      let level ← level.settle
      return { level with files := level.files ++ [arg] }
    else if rule.commands.isEmpty then .error .unknownArgument
    else if level.trailing && rule.commands.any fun (name, _) => name = arg then
      .error .unknownArgument
    else .error .unknownCommand

/-- Reads one argument that is no command. -/
def readArg (rule : CommandRule) (program : String) (level : Level) (arg : String) :
    Except Stop Level :=
  if level.trailing then level.readPlain rule arg
  else
    match arg.toList with
    | ['-', '-'] => .ok { level with trailing := true }
    | '-' :: '-' :: spelling => level.readLong rule program spelling
    | '-' :: c :: rest => level.readShorts rule program (c :: rest)
    | _ => level.readPlain rule arg

/-- Reads a level up to its end, or up to the name of a command; then the name and what follows. -/
def read (rule : CommandRule) (program : String) (level : Level) :
    List String → Except Stop (Level × Option (String × List String))
  | [] => .ok (level, none)
  | arg :: rest =>
    if !level.trailing && !level.awaitsValue && rule.commands.any fun (name, _) => name = arg then
      .ok (level, some (arg, rest))
    else do (← level.readArg rule program arg).read rule program rest

/-- Options that exclude each other. -/
def conflicting (rule : CommandRule) (level : Level) : Bool :=
  rule.conflicts.any fun (a, b) => level.has a && level.has b

/-- Ends a level: the pending option is checked, and then the options against each other. -/
def finish (rule : CommandRule) (level : Level) : Except Stop Level := do
  let level ← level.settle
  if level.conflicting rule then throw .conflict else return level

end Level

/-- The mode that an option names. -/
def modeOf (level : Level) : Option BuildMode := (level.value? .mode).bind fun m => modes.get? m

/-- The command that was read on a level of its own. -/
def commandOf (name : String) (level : Level) : Command :=
  match name with
  | "build" => .build
    { mode := modeOf level, cjs := level.has .cjs, esm := level.has .esm
      minify := level.has .minify, docs := level.has .docs, develop := level.has .develop }
  | "lint" => .lint
    { files := if level.files.isEmpty then ["."] else level.files
      fix := level.has .fix, noFix := level.has .noFix }
  | _ => .docs { reflection := level.value? .reflection, out := level.value? .out }

/-- Joins the levels: a flag holds if either level sets it, and of two values the one behind the
command counts. -/
def ofLevels (outer inner : Level) (command : Command) : CommandLine :=
  { verbose := outer.has .verbose || inner.has .verbose
    quiet := outer.has .quiet || inner.has .quiet
    noColor := outer.has .noColor || inner.has .noColor
    config := (inner.value? .config).or (outer.value? .config)
    cwd := (inner.value? .cwd).or (outer.value? .cwd)
    command }

/-- The help that is asked for by name. -/
def helpFor (program : String) : List String → Stop
  | [] => .help (programRule.helpText program true)
  | [name] =>
    match rule? name with
    | some rule => .help (rule.helpText program true)
    | none => if name = "help" then .help (helpOfHelp program) else .unknownCommand
  | _ => .unknownCommand

/-- Reads a command line behind the program's name, which is `program` in help texts. -/
def parse (program : String) (args : List String) : Except Stop CommandLine := do
  match ← Level.read programRule program {} args with
  | (outer, none) =>
    let outer ← outer.settle
    if outer.given.isEmpty then throw .nothingAsked else throw .missingCommand
  | (outer, some (name, rest)) =>
    match rule? name with
    | none => throw (helpFor program rest)
    | some rule =>
      let (inner, _) ← Level.read rule program {} rest
      let inner ← inner.finish rule
      let outer ← outer.finish programRule
      return ofLevels outer inner (commandOf name inner)

/-- Reads a whole command line: the program's path and its arguments. -/
def ofArgv : List String → Except Stop CommandLine
  | [] => .error .nothingAsked
  | path :: args => parse ((Path.fileName? path).getD programName) args

end TsWorkshop.CommandLine
