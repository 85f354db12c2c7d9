import TsWorkshop.Number.Word
import TsWorkshop.Json.Basic

/-!
Kinds of declarations. A reflection file names a kind by a bit, by a label such as `Type alias`, or
by an identifier such as `TypeAlias`; `Kind.ofBits?` and `Kind.ofName?` read these spellings.
-/

namespace TsWorkshop

/-- The kind of a declaration. -/
inductive Kind where
  | project | module | nameSpace | enum | enumMember | variableDecl | function | classType
  | interface | constructor | property | method | callSignature | indexSignature
  | constructorSignature | parameter | typeLiteral | typeParameter | accessor | getSignature
  | setSignature | typeAlias | reference
  /-- A kind that is not in the table. -/
  | other
  deriving DecidableEq, Repr, Inhabited

namespace Kind

/-- The kinds that have a bit, in the order of their bits. -/
def numbered : List Kind :=
  [project, module, nameSpace, enum, enumMember, variableDecl, function, classType, interface,
   constructor, property, method, callSignature, indexSignature, constructorSignature,
   parameter, typeLiteral, typeParameter, accessor, getSignature, setSignature, typeAlias,
   reference]

/-- The bit of a kind; 0 for a kind that is not in the table. -/
def bits (kind : Kind) : UInt32 :=
  match numbered.findIdx? (· == kind) with
  | some i => 1 <<< i.toUInt32
  | none => 0

/-- The kind with exactly the given bit. -/
def ofBits? (bits : UInt32) : Option Kind := numbered.find? fun kind => kind.bits == bits

/-- The label of a kind. -/
def label : Kind → String
  | project => "Project"
  | module => "Module"
  | nameSpace => "Namespace"
  | enum => "Enumeration"
  | enumMember => "Enumeration member"
  | variableDecl => "Variable"
  | function => "Function"
  | classType => "Class"
  | interface => "Interface"
  | constructor => "Constructor"
  | property => "Property"
  | method => "Method"
  | callSignature => "Call signature"
  | indexSignature => "Index signature"
  | constructorSignature => "Constructor signature"
  | parameter => "Parameter"
  | typeLiteral => "Type literal"
  | typeParameter => "Type parameter"
  | accessor => "Accessor"
  | getSignature => "Get signature"
  | setSignature => "Set signature"
  | typeAlias => "Type alias"
  | reference => "Reference"
  | other => "Unknown"

/-- The spellings of the kinds in lower case and without separators. -/
def spellings : List (String × Kind) :=
  [("project", project), ("module", module), ("namespace", nameSpace), ("enum", enum),
   ("enumeration", enum), ("enummember", enumMember), ("enumerationmember", enumMember),
   ("variable", variableDecl), ("function", function), ("class", classType),
   ("interface", interface), ("constructor", constructor), ("property", property),
   ("method", method), ("callsignature", callSignature), ("indexsignature", indexSignature),
   ("constructorsignature", constructorSignature), ("parameter", parameter),
   ("typeliteral", typeLiteral), ("typeparameter", typeParameter), ("accessor", accessor),
   ("getsignature", getSignature), ("setsignature", setSignature), ("typealias", typeAlias),
   ("reference", reference)]

/-- A name in lower case without blanks, underscores and hyphens. All spellings are letters `a` to
`z` other than `k`, so letters outside A to Z cannot become part of one. -/
def plainName (name : String) : String :=
  Text.asciiLower (String.ofList (name.toList.filter fun c => !isBlank c && c != '_' && c != '-'))

/-- The kind that a label or an identifier names. -/
def ofName? (name : String) : Option Kind := spellings.lookup (plainName name)

/-- Kinds whose members are documented one by one. -/
def isContainer : Kind → Bool
  | classType | interface | nameSpace | module => true
  | _ => false

end Kind

/-- The `kind` of a declaration as it is written: a bit or a name. -/
inductive RawKind where
  | bits (n : UInt32)
  | name (text : String)
  deriving DecidableEq, Repr, Inhabited

namespace RawKind

/-- The kind that is meant. -/
def resolve : RawKind → Option Kind
  | bits n => Kind.ofBits? n
  | name text => Kind.ofName? text

def toJson : RawKind → Json
  | bits n => .ofInt n.toNat
  | name text => .str text

/-- A whole number of 32 bits, or a string. -/
def ofJson? : Json → Option RawKind
  | .num (.whole n) => if 0 ≤ n ∧ n ≤ Word.unsignedMax32 then some (bits n.toNat.toUInt32) else none
  | .str text => some (name text)
  | _ => none

end RawKind

end TsWorkshop
