import TsWorkshop.Number.Word
import TsWorkshop.Config.Setting
import TsWorkshop.Number.Literal

/-!
Scalars of YAML documents: what a plain scalar means, and how the lines of a scalar are folded.
-/

namespace TsWorkshop.Yaml

/-- What is wrong with a document. -/
inductive Fault where
  | openList | openMap | openQuote
  | misplacedValue | misplacedItem | misplacedKey
  /-- A tab stands where the indentation of a plain scalar should. -/
  | misplacedTab
  | expectedKey | expectedItem | expectedColon | expectedBlockNode | expectedFlowNode
  | badStart | badEscape | badCode | badHeader
  | unknownAnchor
  | moreDocuments
  /-- The document is of another type than asked for. -/
  | notMap (found : String)
  deriving DecidableEq, Repr

def Fault.message : Fault → String
  | openList => "did not find expected ',' or ']', while parsing a flow sequence"
  | openMap => "did not find expected ',' or '\x7d', while parsing a flow mapping"
  | openQuote => "found unexpected end of stream, while scanning a quoted scalar"
  | misplacedValue => "mapping values are not allowed in this context"
  | misplacedItem => "block sequence entries are not allowed in this context"
  | misplacedKey => "mapping keys are not allowed in this context"
  | misplacedTab =>
    "found a tab character that violates indentation, while scanning a plain scalar"
  | expectedKey => "did not find expected key, while parsing a block mapping"
  | expectedItem => "did not find expected '-' indicator, while parsing a block collection"
  | expectedColon => "could not find expected ':', while scanning a simple key"
  | expectedBlockNode => "did not find expected node content, while parsing a block node"
  | expectedFlowNode => "did not find expected node content, while parsing a flow node"
  | badStart => "found character that cannot start any token, while scanning for the next token"
  | badEscape => "found unknown escape character, while parsing a quoted scalar"
  | badCode => "did not find expected hexdecimal number, while parsing a quoted scalar"
  | badHeader => "did not find expected comment or line break, while scanning a block scalar"
  | unknownAnchor => "unknown anchor"
  | moreDocuments => "deserializing from YAML containing more than one document is not supported"
  | notMap found => "invalid type: " ++ found ++ ", expected a map"

/-- The number that digits of a base spell, if there are any and all are of the base. -/
def inBase? (base : Nat) (digits : List Char) : Option Nat :=
  if digits.isEmpty then none
  else digits.foldlM (fun n c => (Text.hexValue? c).bind fun d =>
    if d < base then some (base * n + d) else none) 0

/-- Digits with a zero at the front are a text. -/
def hasLeadingZero (cs : List Char) : Bool :=
  match (DecimalLiteral.splitSign cs).2 with
  | '0' :: c :: rest => (c :: rest).all Char.isDigit
  | _ => false

/-- A whole number in base 10, 16, 8 or 2. -/
def whole? (cs : List Char) : Option Scalar :=
  let (negative, digits) := DecimalLiteral.splitSign cs
  let n? : Option Nat := match digits with
    | '0' :: 'x' :: rest => inBase? 16 rest
    | '0' :: 'o' :: rest => inBase? 8 rest
    | '0' :: 'b' :: rest => inBase? 2 rest
    | digits => if hasLeadingZero cs then none else inBase? 10 digits
  n?.bind fun n =>
    if negative then if Word.signedMin128 ≤ -(n : Int) then some (.signed (-(n : Int))) else none
    else if n ≤ Word.unsignedMax128 then some (.unsigned n) else none

/-- A finite number in decimal notation. -/
def finite? (cs : List Char) : Option Scalar :=
  if hasLeadingZero cs then none
  else ((DecimalLiteral.ofChars? cs).bind DecimalLiteral.value).map .float

/-- Plain scalars with a meaning of their own. -/
def words : Assoc Scalar :=
  [("", .empty), ("~", .empty), ("null", .empty), ("Null", .empty), ("NULL", .empty),
   ("true", .bool true), ("True", .bool true), ("TRUE", .bool true),
   ("false", .bool false), ("False", .bool false), ("FALSE", .bool false),
   (".inf", .notFinite "inf"), (".Inf", .notFinite "inf"), (".INF", .notFinite "inf"),
   ("+.inf", .notFinite "inf"), ("+.Inf", .notFinite "inf"), ("+.INF", .notFinite "inf"),
   ("-.inf", .notFinite "-inf"), ("-.Inf", .notFinite "-inf"), ("-.INF", .notFinite "-inf"),
   (".nan", .notFinite "NaN"), (".NaN", .notFinite "NaN"), (".NAN", .notFinite "NaN")]

/-- What a plain scalar means. -/
def ofPlain (text : String) : Scalar :=
  (((words.get? text).or (whole? text.toList)).or (finite? text.toList)).getD (.text text)

/-! ### Lines -/

def isBlank (c : Char) : Bool := c = ' ' || c = '\t'

/-- The text between two lines of a flow scalar that are `breaks` line ends apart: a single end is
folded into a space, and of several ones the first is dropped. -/
def folded (breaks : Nat) : List Char :=
  if breaks ≤ 1 then [' '] else List.replicate (breaks - 1) '\n'

/-- The blank lines at the front of what follows a line end: how many ends they make, counted from
`breaks`, the width of the next line's indentation, and that line without it. -/
def nextLine (breaks width : Nat) : List Char → Nat × Nat × List Char
  | '\n' :: rest => nextLine (breaks + 1) 0 rest
  | ' ' :: rest => nextLine breaks (width + 1) rest
  | '\t' :: rest => nextLine breaks (width + 1) rest
  | cs => (breaks, width, cs)

/-- Text with one kind of line end and no mark at its start. -/
def normalized : List Char → List Char
  | '\r' :: '\n' :: rest => '\n' :: normalized rest
  | '\r' :: rest => '\n' :: normalized rest
  | c :: rest => c :: normalized rest
  | [] => []

end TsWorkshop.Yaml
