import TsWorkshop.FileSystem.Access
import TsWorkshop.Script.Pattern

/-!
Fields: what words expand to. The parts of an expansion are gathered into fields, and a field with a
pattern in it stands for the paths that match.
-/

namespace TsWorkshop.Script

/-- A part of the expansion of a word. -/
inductive Part where
  | char (c : Char) (inQuotes : Bool)
  /-- Quotes, which make a field even if it stays empty. -/
  | quotes
  /-- Blanks of a value, which separate fields. -/
  | blank
  /-- The end of one argument and the start of the next. -/
  | cut
  deriving DecidableEq, Repr

/-- The parts of a value. Outside quotes it is split at separators. -/
def partsOf (separators : List Char) (inQuotes : Bool) (value : String) : List Part :=
  if inQuotes then .quotes :: value.toList.map fun c => .char c true
  else value.toList.map fun c =>
    if !separators.contains c then .char c false
    else if c = ' ' || c = '\t' || c = '\n' then .blank
    else .cut

/-- The parts of several arguments that stay apart. -/
def partsOfArgs (separators : List Char) (inQuotes : Bool) : List String → List Part
  | [] => []
  | [arg] => partsOf separators inQuotes arg
  | arg :: rest =>
    partsOf separators inQuotes arg ++ (if inQuotes then .cut else .blank) ::
      partsOfArgs separators inQuotes rest

/-- Gathers parts into fields, `field` being the one that is open, its last character first. -/
def fieldsOf (field : Option Marked) : List Part → List Marked
  | [] => (field.map List.reverse).toList
  | .char c inQuotes :: rest => fieldsOf (some ((c, inQuotes) :: field.getD [])) rest
  | .quotes :: rest => fieldsOf (some (field.getD [])) rest
  | .blank :: rest => (field.map List.reverse).toList ++ fieldsOf none rest
  | .cut :: rest => (field.getD []).reverse :: fieldsOf none rest

/-- The text of parts that are not split. -/
def textOf (parts : List Part) : String :=
  String.ofList (parts.filterMap fun part =>
    match part with
    | .char c _ => some c
    | .blank | .cut => some ' '
    | .quotes => none)

/-- Parts as a pattern. -/
def patternOf (parts : List Part) : Marked :=
  parts.filterMap fun part =>
    match part with
    | .char c inQuotes => some (c, inQuotes)
    | .blank | .cut => some (' ', true)
    | .quotes => none

/-- A text without the line ends at its end. -/
def chomp (s : String) : String := String.ofList (Text.dropEndWhile (· == '\n') s.toList)

/-! ### Paths that match -/

/-- Whether a field holds a pattern. -/
def Marked.isPattern (m : Marked) : Bool :=
  m.any fun (c, inQuotes) => !inQuotes && (c = '*' || c = '?' || c = '[')

/-- The pieces of a field between its slashes. -/
def Marked.pieces : Marked → List Marked
  | [] => [[]]
  | (c, inQuotes) :: rest =>
    match c, pieces rest with
    | '/', pieces => [] :: pieces
    | _, piece :: pieces => ((c, inQuotes) :: piece) :: pieces
    | _, [] => [[(c, inQuotes)]]

/-- The names in a directory, in order. -/
def namesIn (files : FileSystem) (directory : Path) : List String :=
  match files.locate directory with
  | .ok place =>
    ((files.below place).filterMap fun (names, _) =>
      match names with
      | [name] => some name
      | _ => none).mergeSort fun a b => decide (a ≤ b)
  | .error _ => []

/-- The names that a piece of a pattern stands for. A dot at the front is matched only by itself. -/
def matchingNames (files : FileSystem) (directory : Path) (piece : Marked) : List String :=
  (namesIn files directory).filter fun name =>
    (name.toList.head? ≠ some '.' || (piece.head?.map Prod.fst) = some '.') &&
      matchesPattern piece name.toList

/-- The paths below `before` that the pieces of a pattern lead to. -/
def matchingPaths (files : FileSystem) (cwd : Path) (before : String) : List Marked → List String
  | [] => []
  | [piece] =>
    if piece.isPattern then
      (matchingNames files (cwd.join before) piece).map fun name => before ++ name
    else
      let path := before ++ piece.text
      if files.pathExists (cwd.join path) then [path] else []
  | piece :: rest =>
    if piece.isPattern then
      (matchingNames files (cwd.join before) piece).flatMap fun name =>
        matchingPaths files cwd (before ++ name ++ "/") rest
    else matchingPaths files cwd (before ++ piece.text ++ "/") rest

/-- The paths that a field stands for, or its text if there are none. -/
def pathsOf (files : FileSystem) (cwd : Path) (field : Marked) : List String :=
  if !field.isPattern then [field.text]
  else
    match matchingPaths files cwd "" field.pieces with
    | [] => [field.text]
    | paths => paths

end TsWorkshop.Script
