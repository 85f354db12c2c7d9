import TsWorkshop.CommandLine.Grammar

/-!
Help texts. The short form sets each option and its description on one line, in two columns; the
long form sets the description below the option. A command that has nothing more to say in the long
form has the short form only.
-/

namespace TsWorkshop.CommandLine

namespace OptionRule

/-- The spellings of an option, with its value. -/
def head (o : OptionRule) : String :=
  (match o.short with
  | some c => "-" ++ c.toString ++ ", --"
  | none => "    --") ++ o.long ++
    (match o.value with
    | some (_, name) => " <" ++ name ++ ">"
    | none => "")

/-- The description on one line. -/
def shortText (o : OptionRule) : String :=
  o.about ++
    (if o.choices.isEmpty then ""
    else " [possible values: " ++ Text.join ", " (o.choices.map Prod.fst) ++ "]")

/-- Whether the long form says more. -/
def saysMore (o : OptionRule) : Bool :=
  o.more.isSome || !o.choices.isEmpty

end OptionRule

namespace Help

/-- The indentation of descriptions in the long form. -/
def indent : String := Text.repeated 10 ' '

/-- Paragraphs below a head. -/
def paragraphs (texts : List String) : String :=
  Text.join ("\n" ++ indent ++ "\n") (texts.map (indent ++ ·))

/-- Two columns, the second one starting two characters behind the longest first one. -/
def columns (rows : List (String × String)) : List String :=
  let width := rows.foldl (fun w (head, _) => max w head.length) 0
  rows.map fun (head, text) =>
    "  " ++ head ++ Text.repeated (width - head.length + 2) ' ' ++ text

/-- The list of values with their descriptions. -/
def choices (rows : List (String × String)) : String :=
  let width := rows.foldl (fun w (name, _) => max w name.length) 0
  Text.join "\n" ((indent ++ "Possible values:") :: rows.map fun (name, text) =>
    indent ++ "- " ++ name ++ ":" ++ Text.repeated (width - name.length + 1) ' ' ++ text)

end Help

namespace CommandRule

/-- Whether the long form differs from the short one. -/
def hasLongHelp (c : CommandRule) : Bool :=
  c.longAbout.isSome || c.options.any OptionRule.saysMore

/-- The description of an option in the command's help; that of help itself points to the other
form, if there is one. -/
def describe (c : CommandRule) (long : Bool) (o : OptionRule) : OptionRule :=
  if o.name = .help ∧ c.hasLongHelp then
    { o with about := if long then "Print help (see a summary with '-h')"
                      else "Print help (see more with '--help')" }
  else o

/-- The line that shows how the command is called. -/
def usage (c : CommandRule) (program : String) : String :=
  "Usage: " ++ program ++
    (match c.name with
    | some name => " " ++ name
    | none => "") ++
    " [OPTIONS]" ++
    (match c.files with
    | some files => " [" ++ files.valueName ++ "]..."
    | none => "") ++
    (if c.commands.isEmpty then "" else " <COMMAND>")

def commandSection (c : CommandRule) : List String :=
  if c.commands.isEmpty then []
  else ["Commands:\n" ++ Text.join "\n" (Help.columns c.commands)]

/-- An option in the long form. -/
def longEntry (o : OptionRule) : String :=
  "  " ++ o.head ++ "\n" ++ Help.paragraphs (o.about :: o.more.toList) ++
    (if o.choices.isEmpty then "" else "\n\n" ++ Help.choices o.choices)

def optionSection (c : CommandRule) (long : Bool) : String :=
  let options := c.options.map (c.describe long)
  "Options:\n" ++
    (if long then Text.join "\n\n" (options.map longEntry)
    else Text.join "\n" (Help.columns (options.map fun o => (o.head, o.shortText))))

def fileSection (c : CommandRule) (long : Bool) : List String :=
  match c.files with
  | none => []
  | some files =>
    let head := "[" ++ files.valueName ++ "]..."
    let default := "[default: " ++ files.default ++ "]"
    ["Arguments:\n" ++
      (if long then "  " ++ head ++ "\n" ++ Help.paragraphs [files.about, default]
      else Text.join "\n" (Help.columns [(head, files.about ++ " " ++ default)]))]

/-- The help of a command, as the program named `program` shows it. -/
def helpText (c : CommandRule) (program : String) (long : Bool) : String :=
  let long := long && c.hasLongHelp
  let about := if long then c.longAbout.getD c.about else c.about
  Text.join "\n\n"
    ([about, c.usage program] ++ c.commandSection ++ c.fileSection long ++
      [c.optionSection long]) ++ "\n"

end CommandRule

/-- The help of the help command. -/
def helpOfHelp (program : String) : String :=
  "Print this message or the help of the given subcommand(s)\n\nUsage: " ++ program ++
    " help [COMMAND]...\n\nArguments:\n  [COMMAND]...  Print help for the subcommand(s)\n"

/-- The text that shows the version. -/
def versionText : String := programName ++ " " ++ versionNumber ++ "\n"

end TsWorkshop.CommandLine
