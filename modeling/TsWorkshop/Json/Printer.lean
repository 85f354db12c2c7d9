import TsWorkshop.Json.Basic

/-!
JSON text of a value. `Json.compact` writes no blanks; `Json.pretty` puts every item and member on a
line of its own and leaves empty arrays and objects on one line. Only quotes, backslashes and
control characters are escaped.
-/

namespace TsWorkshop.Json

/-- A character as it stands inside a quoted string. -/
def escaped (c : Char) : List Char :=
  match c with
  | '"' => ['\\', '"']
  | '\\' => ['\\', '\\']
  | '\x08' => ['\\', 'b']
  | '\x0c' => ['\\', 'f']
  | '\n' => ['\\', 'n']
  | '\r' => ['\\', 'r']
  | '\t' => ['\\', 't']
  | c => if c.toNat < 0x20 then ['\\', 'u', '0', '0'] ++ Text.hex 2 c.toNat else [c]

/-- The characters of a quoted string. -/
def quotedChars (cs : List Char) : List Char := '"' :: cs.flatMap escaped ++ ['"']

/-- A text between quotes. -/
def quoted (s : String) : String := String.ofList (quotedChars s.toList)

mutual

/-- The text of a value without blanks. -/
def compact : Json → String
  | null => "null"
  | bool b => if b then "true" else "false"
  | num n => n.text
  | str s => quoted s
  | arr items => "[" ++ Text.join "," (compactItems items) ++ "]"
  | obj members => "\x7b" ++ Text.join "," (compactMembers members) ++ "\x7d"

def compactItems : List Json → List String
  | [] => []
  | item :: rest => item.compact :: compactItems rest

def compactMembers : List (String × Json) → List String
  | [] => []
  | (key, value) :: rest => (quoted key ++ ":" ++ value.compact) :: compactMembers rest

end

/-- The pieces between brackets, one on each line, one step deeper than `outer`. -/
def block (opening closing : String) (step outer : String) : List String → String
  | [] => opening ++ closing
  | pieces =>
    opening ++ "\n" ++ outer ++ step ++ Text.join (",\n" ++ outer ++ step) pieces ++
      "\n" ++ outer ++ closing

mutual

/-- The text of a value over several lines, each level indented by one more `step` than `outer`. -/
def prettyAt (step outer : String) : Json → String
  | null => "null"
  | bool b => if b then "true" else "false"
  | num n => n.text
  | str s => quoted s
  | arr items => block "[" "]" step outer (prettyItems step (outer ++ step) items)
  | obj members => block "\x7b" "\x7d" step outer (prettyMembers step (outer ++ step) members)

def prettyItems (step outer : String) : List Json → List String
  | [] => []
  | item :: rest => item.prettyAt step outer :: prettyItems step outer rest

def prettyMembers (step outer : String) : List (String × Json) → List String
  | [] => []
  | (key, value) :: rest =>
    (quoted key ++ ": " ++ value.prettyAt step outer) :: prettyMembers step outer rest

end

/-- The text of a value over several lines, indented by four spaces. -/
def pretty (value : Json) : String := value.prettyAt "    " ""

end TsWorkshop.Json
