import TsWorkshop.Action

/-!
What is shown to the user on the terminal: status lines with a coloured mark, and the list of built
artifacts.
-/

namespace TsWorkshop.Terminal

/-- Variables that are set where builds run unattended. -/
def unattendedNames : List String := ["CI", "GITHUB_ACTIONS", "GITLAB_CI", "CIRCLECI", "TRAVIS"]

/-- Whether the program runs unattended. -/
def isUnattended (environment : Environment) : Bool :=
  unattendedNames.any fun name => environment.has name

/-- Whether the environment allows colours: forbidding them comes first, then asking for them; else
they are for terminals alone. -/
def allowsColors (environment : Environment) (isTerminal : Bool) : Bool :=
  if environment.has "NO_COLOR" then false
  else if environment.has "FORCE_COLOR" then true
  else isTerminal

/-- Whether colours are used. -/
def colors (noColor : Bool) (environment : Environment) (isTerminal : Bool) : Bool :=
  !noColor && allowsColors environment isTerminal

/-- The kinds of status lines. -/
inductive Mark where
  | success | info | warning
  deriving DecidableEq, Repr

namespace Mark

def symbol : Mark → String
  | success => "✓"
  | info => "ℹ"
  | warning => "⚠"

def style : Mark → Style
  | success => .green
  | info => .blue
  | warning => .yellow

/-- The symbol as it is shown. -/
def text (mark : Mark) (colors : Bool) : String :=
  Style.bold.paint colors (mark.style.paint colors mark.symbol)

end Mark

variable {ε : Type}

/-- Shows a status line. -/
def status (mark : Mark) (message : String) : Action ε Unit := do
  let colors ← Action.asks Host.colors
  Action.print (mark.text colors ++ " " ++ message)

/-- Shows blocks of text, each with a blank line behind it. -/
def blocks : List String → Action ε Unit
  | [] => return ()
  | block :: rest => do
    Action.print (block ++ "\n")
    blocks rest

/-- The line of an artifact in the list. -/
def artifactLine (colors : Bool) (path : Path) (bytes : Nat) : String :=
  let name := path.fileName?.getD path
  let size := Measure.size bytes
  if colors then
    "  " ++ Style.blue.paint true "▸" ++ " " ++ Style.bold.paint true name ++ " " ++
      Style.dim.paint true size
  else "  - " ++ name ++ " " ++ size

/-- Shows artifacts with their sizes. -/
def artifacts : List (Path × Nat) → Action ε Unit
  | [] => return ()
  | (path, bytes) :: rest => do
    let colors ← Action.asks Host.colors
    Action.print (artifactLine colors path bytes)
    artifacts rest

end TsWorkshop.Terminal
