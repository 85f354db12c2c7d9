import TsWorkshop.Json.Printer
import TsWorkshop.Text.Quoted

/-!
What can be wrong with a JSON text: it ends too early, it breaks the grammar, or it holds a value of
another shape than the reader asks for. Each cause has one wording, `Complaint.message`.
-/

namespace TsWorkshop

/-- A value as a complaint about its type shows it. -/
inductive Found where
  | null
  | bool (b : Bool)
  | whole (n : Int)
  | float (x : Binary64)
  | text (s : String)
  | sequence
  | map
  deriving DecidableEq, Repr

/-- Why a JSON text was refused. -/
inductive Complaint where
  | endInValue | endInList | endInObject | endInString
  | expectedValue | expectedIdent | trailingComma | trailingCharacters | keyNotText
  | expectedColon | expectedCommaOrBrace | expectedCommaOrBracket | invalidNumber | invalidEscape
  | loneSurrogate | unfinishedSurrogate | controlCharacter | numberOutOfRange | tooDeep | notUnicode
  | missingField (name : String)
  | duplicateField (name : String)
  | wrongType (found : Found) (expected : String)
  | wrongValue (found : Found) (expected : String)
  | wrongLength (length : Nat) (expected : String)
  | noVariant (name : String)
  | unknownVariant (name : String) (known : List String)
  | unknownField (name : String) (known : List String)
  deriving DecidableEq, Repr

/-- The three kinds of complaint. -/
inductive Complaint.Category where
  | grammar | data | ending
  deriving DecidableEq, Repr

namespace Found

/-- The way the value is shown in a message. -/
def shown : Found → String
  | null => "null"
  | bool b => "boolean \x60" ++ (if b then "true" else "false") ++ "\x60"
  | whole n => "integer \x60" ++ toString n ++ "\x60"
  | float x => "floating point \x60" ++ x.plain ".0" ++ "\x60"
  | text s => "string " ++ Text.shown s
  | sequence => "sequence"
  | map => "map"

end Found

namespace Complaint

/-- The names a message offers: `a`, or `a` or `b`, or one of a list. -/
def alternatives (known : List String) : String :=
  let ticked := known.map fun name => "\x60" ++ name ++ "\x60"
  match ticked with
  | [] => ""
  | [one] => one
  | [one, two] => one ++ " or " ++ two
  | more => "one of " ++ Text.join ", " more

/-- The offer of a message. -/
def offered (known : List String) : String :=
  if known.isEmpty then "there are no fields" else "expected " ++ alternatives known

def category : Complaint → Category
  | endInValue | endInList | endInObject | endInString => .ending
  | missingField _ | duplicateField _ | wrongType _ _ | wrongValue _ _ | wrongLength _ _
  | noVariant _ | unknownVariant _ _ | unknownField _ _ => .data
  | _ => .grammar

/-- The wording of a complaint, without its place in the text. -/
def message : Complaint → String
  | endInValue => "EOF while parsing a value"
  | endInList => "EOF while parsing a list"
  | endInObject => "EOF while parsing an object"
  | endInString => "EOF while parsing a string"
  | expectedValue => "expected value"
  | expectedIdent => "expected ident"
  | trailingComma => "trailing comma"
  | trailingCharacters => "trailing characters"
  | keyNotText => "key must be a string"
  | expectedColon => "expected \x60:\x60"
  | expectedCommaOrBrace => "expected \x60,\x60 or \x60\x7d\x60"
  | expectedCommaOrBracket => "expected \x60,\x60 or \x60]\x60"
  | invalidNumber => "invalid number"
  | invalidEscape => "invalid escape"
  | loneSurrogate => "lone leading surrogate in hex escape"
  | unfinishedSurrogate => "unexpected end of hex escape"
  | controlCharacter => "control character (\\u0000-\\u001F) found while parsing a string"
  | numberOutOfRange => "number out of range"
  | tooDeep => "recursion limit exceeded"
  | notUnicode => "invalid unicode code point"
  | missingField name => "missing field \x60" ++ name ++ "\x60"
  | duplicateField name => "duplicate field \x60" ++ name ++ "\x60"
  | wrongType found expected => "invalid type: " ++ found.shown ++ ", expected " ++ expected
  | wrongValue found expected => "invalid value: " ++ found.shown ++ ", expected " ++ expected
  | wrongLength n expected => "invalid length " ++ toString n ++ ", expected " ++ expected
  | noVariant name => "data did not match any variant of untagged enum " ++ name
  | unknownVariant name known => "unknown variant \x60" ++ name ++ "\x60, " ++ offered known
  | unknownField name known => "unknown field \x60" ++ name ++ "\x60, " ++ offered known

end Complaint

end TsWorkshop
