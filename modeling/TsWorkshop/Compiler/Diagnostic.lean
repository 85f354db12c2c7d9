import TsWorkshop.Number.Word
import TsWorkshop.FileSystem.Path
import TsWorkshop.Text.Unicode.Alphabetic

/-!
Diagnostics of the TypeScript compiler in its plain output: a line
`file(line,column): severity TScode: text`, or one without a place, followed by further lines of the
message that are indented.
-/

namespace TsWorkshop

/-- How serious a diagnostic is. -/
inductive Severity where
  | error | warning | message
  deriving DecidableEq, Repr

def Severity.name : Severity → String
  | error => "error"
  | warning => "warning"
  | message => "message"

/-- A diagnostic; without a file, line and column are 0. -/
structure Diagnostic where
  file : Option Path
  line : Nat
  column : Nat
  severity : Severity
  code : Nat
  message : String
  deriving DecidableEq, Repr

namespace Diagnostic

def isError (d : Diagnostic) : Bool := d.severity = .error

/-- The place of a diagnostic, or its code if it has none. -/
def location (d : Diagnostic) : String :=
  match d.file with
  | some file => file ++ ":" ++ toString d.line ++ ":" ++ toString d.column
  | none => "TS" ++ toString d.code

/-- The number that digits spell, if they are ASCII digits and it is at most `max`; else 0. -/
def boundedNumber (max : Nat) (digits : List Char) : Nat :=
  if digits.all fun c => (Text.digitValue? c).isSome then
    let n := Text.digitsValue 0 digits
    if n ≤ max then n else 0
  else 0

/-- One or more decimal digits at the start. -/
def digits? (cs : List Char) : Option (List Char × List Char) :=
  match cs.takeWhile Unicode.isDecimalDigit with
  | [] => none
  | digits => some (digits, cs.dropWhile Unicode.isDecimalDigit)

/-- `severity TScode: text` up to the end of the line. -/
def body? (cs : List Char) : Option (Severity × Nat × List Char) := do
  let (severity, rest) ←
    ((Text.stripStart "error".toList cs).map fun rest => (Severity.error, rest)).or
      (((Text.stripStart "warning".toList cs).map fun rest => (Severity.warning, rest)).or
        ((Text.stripStart "message".toList cs).map fun rest => (Severity.message, rest)))
  let rest ← Text.stripStart " TS".toList rest
  let (code, rest) ← digits? rest
  let text ← Text.stripStart ": ".toList rest
  return (severity, boundedNumber Word.unsignedMax32 code, text)

/-- `(line,column): ` and a body behind it. -/
def place? (cs : List Char) : Option (Nat × Nat × Severity × Nat × List Char) := do
  let rest ← Text.stripStart ['('] cs
  let (line, rest) ← digits? rest
  let rest ← Text.stripStart [','] rest
  let (column, rest) ← digits? rest
  let rest ← Text.stripStart "): ".toList rest
  let (severity, code, text) ← body? rest
  let place := (boundedNumber Word.unsignedMax line, boundedNumber Word.unsignedMax column)
  return (place.1, place.2, severity, code, text)

/-- The shortest non-empty file name that is followed by a place; `name` holds its characters so
far, the last one first. -/
def withFile? (name : List Char) : List Char → Option Diagnostic
  | [] => none
  | c :: rest =>
    match place? rest with
    | some (line, column, severity, code, text) =>
      some { file := some (String.ofList (c :: name).reverse), line, column, severity, code,
             message := String.ofList text }
    | none => withFile? (c :: name) rest

/-- The diagnostic that a line opens. -/
def ofLine? (line : List Char) : Option Diagnostic :=
  (withFile? [] line).or ((body? line).map fun (severity, code, text) =>
    { file := none, line := 0, column := 0, severity, code, message := String.ofList text })

/-- A line that goes on with the message of the diagnostic before it: indented and not blank. -/
def isContinuation (line : List Char) : Bool :=
  line.head? == some ' ' && !line.all isBlank

/-- Appends a line to the message. -/
def extend (d : Diagnostic) (line : List Char) : Diagnostic :=
  { d with message := d.message ++ "\n" ++ String.ofList (Text.trimBlank line) }

/-- Reads lines, `last` being the diagnostic that is still open. -/
def ofLines (last : Option Diagnostic) : List (List Char) → List Diagnostic
  | [] => last.toList
  | line :: rest =>
    match ofLine? line with
    | some d => last.toList ++ ofLines (some d) rest
    | none => ofLines (if isContinuation line then last.map fun d => d.extend line else last) rest

/-- The diagnostics of the compiler's output. -/
def ofOutput (output : String) : List Diagnostic := ofLines none (Text.linesOf output.toList)

end Diagnostic

end TsWorkshop
