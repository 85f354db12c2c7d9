import TsWorkshop.Json.Basic

/-!
Tags of type descriptors: the texts under the key `type` that have a known payload.
-/

namespace TsWorkshop

/-- A known tag of a type descriptor. -/
inductive Tag where
  | array | conditional | indexedAccess | inferred | intersection | intrinsic | predicate
  | reference | reflection | literal | tuple | typeOperator | union | unknown
  deriving DecidableEq, Repr, Inhabited

namespace Tag

/-- All known tags. -/
def all : List Tag :=
  [array, conditional, indexedAccess, inferred, intersection, intrinsic, predicate, reference,
   reflection, literal, tuple, typeOperator, union, unknown]

/-- The text of a tag. -/
def text : Tag → String
  | array => "array"
  | conditional => "conditional"
  | indexedAccess => "indexedAccess"
  | inferred => "inferred"
  | intersection => "intersection"
  | intrinsic => "intrinsic"
  | predicate => "predicate"
  | reference => "reference"
  | reflection => "reflection"
  | literal => "literal"
  | tuple => "tuple"
  | typeOperator => "typeOperator"
  | union => "union"
  | unknown => "unknown"

/-- The tag with exactly the given text. -/
def ofText? (text : String) : Option Tag := all.find? fun tag => tag.text == text

/-- The text under the key `type` of an object. -/
def textIn? (value : Json) : Option String := (value.field? "type").bind Json.text?

/-- The known tag of a value: objects with a string under `type` that is one of the tags. -/
def classify (value : Json) : Option Tag := (textIn? value).bind ofText?

/-- Whether a value is an object that carries this tag. -/
def fits (tag : Tag) (value : Json) : Bool := textIn? value == some tag.text

end Tag

end TsWorkshop
