import TsWorkshop.Json.Shape
import TsWorkshop.Text.Unicode.Alphabetic

/-!
The ES module that wraps a CommonJS bundle: it imports the bundle, exports each of its own keys that
is a valid name, and exports the bundle itself as the default.
-/

namespace TsWorkshop

/-- What a loaded bundle exports: the kind of value, and its own keys. -/
structure ModuleShape where
  kind : String
  keys : List String
  deriving DecidableEq, Repr

namespace ModuleShape

/-- The single record of a probed shape. -/
inductive RecordName where
  | shape

def grammar : Grammar RecordName := fun _ =>
  { title := "struct ModuleShape"
    fields :=
      [{ name := "type", shape := .text "a string" },
       { name := "keys", shape := .list (.text "a string"), optional := true }] }

/-- A shape in standard form. -/
def ofJson (value : Json) : ModuleShape :=
  { kind := ((value.field? "type").bind Json.text?).getD ""
    keys := (((value.field? "keys").bind Json.items?).getD []).filterMap Json.text? }

/-- Reads a shape. -/
def ofText (text : String) : Except Complaint ModuleShape :=
  ((Shape.record RecordName.shape).ofText grammar text).map ofJson

/-- Reads a shape that a program has printed. -/
def ofBytes (bytes : ByteArray) : Except Complaint ModuleShape :=
  ((Shape.record RecordName.shape).ofBytes grammar bytes).map ofJson

/-- Inserts a text into a strictly increasing list. -/
def insertKey (key : String) : List String → List String
  | [] => [key]
  | other :: rest =>
    if key < other then key :: other :: rest
    else if key = other then other :: rest
    else other :: insertKey key rest

/-- Texts in increasing order, each once. -/
def sortedKeys (keys : List String) : List String := keys.foldr insertKey []

/-- Keys that every function has. -/
def functionKeys : List String := ["length", "prototype", "name", "caller"]

/-- Whether a key of a value of the given kind is worth exporting. -/
def exports (kind key : String) : Bool :=
  key ≠ "__esModule" &&
    (if kind = "function" then !functionKeys.contains key else kind = "object")

/-- The keys worth exporting, in order. -/
def exportKeys (shape : ModuleShape) : List String :=
  (sortedKeys shape.keys).filter (exports shape.kind)

end ModuleShape

namespace Wrapper

/-- Words that cannot be bound in a module. -/
def reservedWords : List String :=
  ["arguments", "await", "break", "case", "catch", "class", "const", "continue", "debugger",
   "default", "delete", "do", "else", "enum", "eval", "export", "extends", "false", "finally",
   "for", "function", "if", "implements", "import", "in", "instanceof", "interface", "let",
   "new", "null", "package", "private", "protected", "public", "return", "static", "super",
   "switch", "this", "throw", "true", "try", "typeof", "var", "void", "while", "with", "yield"]

/-- A character that a name may start with. -/
def isNameStart (c : Char) : Bool := Unicode.isAlphabetic c || c == '_' || c == '$'

/-- A character that a name may go on with. -/
def isNamePart (c : Char) : Bool :=
  Unicode.isAlphabetic c || Unicode.isNumber c || c == '_' || c == '$'

/-- A name that can be exported as a constant. -/
def isIdentifier (name : String) : Bool :=
  match name.toList with
  | [] => false
  | first :: rest => isNameStart first && rest.all isNamePart && !reservedWords.contains name

/-- The specifier of a path: a path that is not marked as relative is put below the directory of
the wrapper. -/
def specifier (path : String) : String :=
  if Text.startsWith "./" path || Text.startsWith "../" path || path = ".." then path
  else "./" ++ path

/-- The line that exports a key. -/
def exportLine (key : String) : String := "export const " ++ key ++ " = mod." ++ key ++ ";\n"

/-- The text of the wrapper of the bundle at `path`. -/
def text (shape : ModuleShape) (path : String) : String :=
  "import mod from " ++ Json.quoted (specifier path) ++ ";\n" ++
    Text.join "" ((shape.exportKeys.filter isIdentifier).map exportLine) ++
    "\nexport default mod;"

end Wrapper

end TsWorkshop
