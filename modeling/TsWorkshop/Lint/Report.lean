import TsWorkshop.Number.Word
import TsWorkshop.Json.Shape
import TsWorkshop.FileSystem.Path
import TsWorkshop.Report.Frame

/-!
Reports of ESLint: the messages for each file, their totals, and their texts with an excerpt of the
file.
-/

namespace TsWorkshop

/-- A message of a report. -/
structure LintMessage where
  ruleId : Option String
  severity : Nat
  message : String
  line : Nat
  column : Nat
  fatal : Bool
  deriving DecidableEq, Repr

/-- The messages for one file, with the counts that the report states. -/
structure LintResult where
  filePath : Path
  messages : List LintMessage
  errorCount : Nat
  warningCount : Nat
  /-- The text after fixes. -/
  output : Option String
  source : Option String
  deriving DecidableEq, Repr

/-- Totals of a report. -/
structure LintSummary where
  warnings : Nat
  errors : Nat
  deriving DecidableEq, Repr

namespace LintMessage

/-- A message that makes a run fail. -/
def isError (m : LintMessage) : Bool := m.fatal || 2 ≤ m.severity

end LintMessage

namespace LintResult

/-- The text that the messages speak about: after fixes if there were any, and not empty. -/
def text (r : LintResult) : Option String := (r.output.or r.source).filter (· ≠ "")

/-- The records of a report. -/
inductive RecordName where
  | result | message

def count (name : String) : Field RecordName :=
  { name, shape := .whole "usize" 0 Word.unsignedMax, optional := true }

def optionalText (name : String) : Field RecordName :=
  { name, shape := .text "a string", nullable := true, optional := true, optionalItem := false }

def grammar : Grammar RecordName
  | .result =>
    { title := "struct LintResult"
      fields :=
        [{ name := "filePath", shape := .text "a string" },
         { name := "messages", shape := .list (.record .message), optional := true },
         count "errorCount", count "warningCount", optionalText "output", optionalText "source"] }
  | .message =>
    { title := "struct LintMessage"
      fields :=
        [optionalText "ruleId",
         { name := "severity", shape := .whole "u8" 0 255, optional := true },
         { name := "message", shape := .text "a string" }, count "line", count "column",
         { name := "fatal", shape := .flag, optional := true }] }

/-- The count under a key; 0 if there is none. -/
def countAt (value : Json) (name : String) : Nat :=
  ((value.field? name).bind (Json.whole? 0 Word.unsignedMax)).getD 0 |>.toNat

def messageOfJson (value : Json) : LintMessage :=
  { ruleId := (value.field? "ruleId").bind Json.text?
    severity := countAt value "severity"
    message := ((value.field? "message").bind Json.text?).getD ""
    line := countAt value "line"
    column := countAt value "column"
    fatal := ((value.field? "fatal").bind Json.flag?).getD false }

/-- A result in standard form. -/
def ofJson (value : Json) : LintResult :=
  { filePath := ((value.field? "filePath").bind Json.text?).getD ""
    messages := (((value.field? "messages").bind Json.items?).getD []).map messageOfJson
    errorCount := countAt value "errorCount"
    warningCount := countAt value "warningCount"
    output := (value.field? "output").bind Json.text?
    source := (value.field? "source").bind Json.text? }

/-- Reads a report. -/
def reportOfText (text : String) : Except Complaint (List LintResult) := do
  let report ← (Shape.list (.record RecordName.result)).ofText grammar text
  return ((report.items?).getD []).map ofJson

/-- Where a message stands, and the rule that it comes from. -/
def header (r : LintResult) (m : LintMessage) : String :=
  r.filePath ++ ":" ++ toString m.line ++ ":" ++ toString m.column ++
    (match m.ruleId with
    | some rule => " (" ++ rule ++ ")"
    | none => "")

/-- The texts of the messages of a file. -/
def blocks (colors : Bool) (r : LintResult) : List String :=
  r.messages.map fun m =>
    r.header m ++ "\n" ++ Frame.message r.text m.line m.column m.message m.fatal colors

end LintResult

namespace LintSummary

/-- The totals once the counts of one more file are added. -/
def addCounts (overflow : Word.Overflow) (total : LintSummary) (r : LintResult) :
    Option LintSummary := do
  let warnings ← Word.add? overflow total.warnings r.warningCount
  let errors ← Word.add? overflow total.errors r.errorCount
  return { warnings, errors }

/-- The totals of a report, as its files state them, unless the program stops at a sum. -/
def ofResults (overflow : Word.Overflow) (results : List LintResult) : Option LintSummary :=
  results.foldlM (addCounts overflow) ⟨0, 0⟩

/-- The line that sums up a report. -/
def line (s : LintSummary) : String :=
  "⚠️ " ++ toString s.warnings ++ " warning(s) | ✖️ " ++ toString s.errors ++ " error(s)"

end LintSummary

end TsWorkshop
