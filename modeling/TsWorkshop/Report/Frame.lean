import TsWorkshop.Text.Style

/-!
Excerpts of a source around a position: up to two lines before and after it, each behind a gutter
with its number, and a caret below the position.
-/

namespace TsWorkshop.Frame

/-- A gutter: the number of a line, right-aligned. -/
def gutter (width number : Nat) : String :=
  " " ++ Text.padStart width ' ' (toString number) ++ " | "

/-- A gutter with blanks for the digits. -/
def blankGutter (width number : Nat) : String :=
  String.ofList ((gutter width number).toList.map fun c => if c.isDigit then ' ' else c)

/-- What stands before the caret: a tab for each tab of the line and a space for each other
character, up to the column. -/
def padding (line : String) (column : Nat) : String :=
  String.ofList ((line.toList.take (column - 1)).map fun c => if c = '\t' then '\t' else ' ')

/-- The caret. -/
def caret (colors : Bool) : String := Style.bold.paint colors (Style.red.paint colors "^")

/-- The lines of an excerpt from number `number` on, with a caret line below the line `target`. -/
def excerpt (colors : Bool) (width target column : Nat) : Nat → List String → List String
  | _, [] => []
  | number, line :: rest =>
    let shown := Style.dim.paint colors (gutter width number) ++ line
    let more := excerpt colors width target column (number + 1) rest
    if number = target then
      shown :: (Style.dim.paint colors (blankGutter width number) ++ padding line column ++
        caret colors) :: more
    else shown :: more

/-- The excerpt of a source around a line and a column, both counted from one. `none` if the source
has no such line. -/
def source (text : String) (line column : Nat) (colors : Bool) : Option String :=
  let lines := Text.lines text
  if line = 0 ∨ lines.length < line then none
  else
    let start := line - 3
    let stop := min (line + 2) lines.length
    let width := (toString stop).length
    some (Text.join "\n"
      (excerpt colors width line column (start + 1) ((lines.take stop).drop start)))

/-- An excerpt and a message below it, or a note in place of an excerpt that cannot be made. -/
def message (text : Option String) (line column : Nat) (message : String) (fatal colors : Bool) :
    String :=
  let note := Style.red.paint colors ">" ++ " " ++ message ++ (if fatal then " (fatal)" else "")
  match text.bind fun text => source text line column colors with
  | some excerpt => excerpt ++ "\n\n" ++ note
  | none => "(unable to receive source trace)\n\n" ++ note

end TsWorkshop.Frame
