import TsWorkshop.Text.Basic

/-!
What can be wrong with a TOML document, and how that is told: with the place of the fault and an
excerpt of its line.
-/

namespace TsWorkshop.Toml

/-- What is wrong. -/
inductive Cause where
  | badKey | badValue
  | badString (kind : String)
  | badEscape
  /-- A code that is not of so many digits. -/
  | badCode (digits : Nat)
  | unknownCode (digits : Nat)
  | numberTooLarge
  | badNumber (kind : String)
  /-- A number starts with something else than a digit. -/
  | noLeadingDigit (kind : String)
  | notFinite
  /-- A date or a time that is not written as one. -/
  | badMoment (kind : String)
  /-- A part of a date or a time is out of bounds. -/
  | unknownMoment (kind : String)
  | expectedEquals
  | expectedNewline
  /-- A list or a table on one line is not closed. -/
  | notClosed (kind : String) (bracket : Char)
  | badHeader (bracket : String)
  /-- The table is known where it was opened by a header. -/
  | duplicateKey (key : String) (table : Option (List String))
  /-- A path leads through a value of another type. -/
  | notTable (path : List String) (found : String)
  deriving DecidableEq, Repr

namespace Cause

/-- Characters as something that was expected. -/
def expected (choices : List String) : String :=
  "expected " ++ Text.join ", " (choices.map fun choice => "\x60" ++ choice ++ "\x60")

def message : Cause → String
  | badKey => "invalid key"
  | badValue => "invalid string\n" ++ expected ["\"", "'"]
  | badString kind => "invalid " ++ kind
  | badEscape =>
    "invalid escape sequence\n" ++ expected ["b", "f", "n", "r", "t", "u", "U", "\\", "\""]
  | badCode digits => "invalid unicode " ++ toString digits ++ "-digit hex code"
  | unknownCode digits =>
    "invalid unicode " ++ toString digits ++ "-digit hex code\nvalue is out of range"
  | numberTooLarge => "number too large to fit in target type"
  | badNumber kind => "invalid " ++ kind ++ "\nexpected digit"
  | noLeadingDigit kind => "invalid " ++ kind ++ "\nexpected leading digit"
  | notFinite => "invalid floating-point number"
  | badMoment kind => "invalid " ++ kind
  | unknownMoment kind => "invalid " ++ kind ++ "\nvalue is out of range"
  | expectedEquals => expected [".", "="]
  | expectedNewline => "expected newline, \x60#\x60"
  | notClosed kind bracket => "invalid " ++ kind ++ "\n" ++ expected [bracket.toString]
  | badHeader bracket => expected [".", bracket]
  | duplicateKey key none => "duplicate key \x60" ++ key ++ "\x60"
  | duplicateKey key (some []) => "duplicate key \x60" ++ key ++ "\x60 in document root"
  | duplicateKey key (some table) =>
    "duplicate key \x60" ++ key ++ "\x60 in table \x60" ++ Text.join "." table ++ "\x60"
  | notTable path found =>
    "dotted key \x60" ++ Text.join "." path ++ "\x60 attempted to extend non-table type (" ++
      found ++ ")"

/-- Whether a message names what was being read. -/
def isNamed : Cause → Bool
  | badKey | badString _ | badEscape | badCode _ | unknownCode _ => true
  | _ => false

/-- The message of a fault in a header. -/
def messageInHeader (cause : Cause) : String :=
  if cause.isNamed then cause.message else "invalid table header\n" ++ cause.message

end Cause

/-- A fault, with the number of characters that were left of the document. -/
structure Fault where
  cause : Cause
  left : Nat
  inHeader : Bool := false
  deriving DecidableEq, Repr

/-- A fault at the front of what is left. -/
def fault {α : Type} (cause : Cause) (rest : List Char) : Except Fault α :=
  .error { cause, left := rest.length }

namespace Fault

/-- The line and the column of a place, counted from zero. The end of a text counts as a place on
its last line. -/
def position (cs : List Char) (place : Nat) : Nat × Nat :=
  let before := cs.take (min place (cs.length - 1))
  let column := (before.reverse.takeWhile (· != '\n')).length
  (before.count '\n', column + (place - before.length))

/-- The number of marks below an excerpt: as wide as the character at the place, but not beyond the
end of the line. -/
def markCount (cs : List Char) (place column : Nat) (line : String) : Nat :=
  let width := match cs[place]? with
    | some c => c.utf8Size
    | none => 0
  max 1 (min width (line.utf8ByteSize - column))

/-- The message of a fault in a text. -/
def message (text : String) (f : Fault) : String :=
  let cs := text.toList
  let place := cs.length - f.left
  let (row, column) := position cs place
  let line := (Text.split '\n' text)[row]?.getD ""
  let number := toString (row + 1)
  let gutter := Text.repeated (number.length + 1) ' ' ++ "|"
  "TOML parse error at line " ++ number ++ ", column " ++ toString (column + 1) ++ "\n" ++
    gutter ++ "\n" ++ number ++ " | " ++ line ++ "\n" ++
    gutter ++ Text.repeated (column + 1) ' ' ++
    Text.repeated (markCount cs place column line) '^' ++ "\n" ++
    (if f.inHeader then f.cause.messageInHeader else f.cause.message) ++ "\n"

end Fault

end TsWorkshop.Toml
