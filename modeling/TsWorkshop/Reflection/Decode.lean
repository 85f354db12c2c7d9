import TsWorkshop.Number.Word
import TsWorkshop.Reflection.Basic

/-!
Reflection records out of JSON values. `Descriptor.ofJson` accepts every value: a value whose
payload does not fit its tag is kept as it stands. The other records are refused when a field has
the wrong shape, a required field is missing, or a field occurs twice. Members without a field are
kept.
-/

namespace TsWorkshop

/-! ### Fields of a record -/

namespace Fields

/-- No field occurs twice. -/
def distinct (known : List String) (members : Assoc Json) : Bool :=
  known.all fun name => members.count name ≤ 1

/-- The members without a field, a repeated key folded into its first place. -/
def others (known : List String) (members : Assoc Json) : Extra :=
  Assoc.merged (members.filter fun (key, _) => !known.contains key)

/-- A field that may be absent or `null`, `read` being what its value reads as. -/
def nullable {α : Type} (name : String) (members : Assoc Json) (read : Option α) :
    Option (Option α) :=
  match members.get? name with
  | none | some .null => some none
  | some _ => read.map some

/-- A field that may be absent, but not `null`. -/
def defaulted {α : Type} (name : String) (members : Assoc Json) (default : α) (read : Option α) :
    Option α :=
  match members.get? name with
  | none => some default
  | some _ => read

/-- The text of a field. -/
def text? (name : String) (members : Assoc Json) : Option String :=
  (members.get? name).bind Json.text?

/-- A text field that may be absent or `null`. -/
def nullableText (name : String) (members : Assoc Json) : Option (Option String) :=
  nullable name members (text? name members)

/-- A whole number of 64 bits with sign. -/
def int64? (value : Json) : Option Int64 :=
  (value.whole? Word.signedMin Word.signedMax).map Int64.ofInt

/-- A whole number field that may be absent or `null`. -/
def nullableId (members : Assoc Json) : Option (Option Int64) :=
  nullable "id" members ((Assoc.get? "id" members).bind int64?)

end Fields

open Fields

namespace CommentTag

/-- A comment tag from an object, or from an array of its fields in order. Other members are
dropped. -/
def ofJson? : Json → Option CommentTag
  | .obj members =>
    if distinct ["tag", "text", "param"] members then do
      let tag ← text? "tag" members
      let text ← defaulted "text" members "" (text? "text" members)
      let param ← nullableText "param" members
      return { tag, text, param }
    else none
  | .arr [.str tag] => some { tag }
  | .arr [.str tag, .str text] => some { tag, text }
  | .arr [.str tag, .str text, .null] => some { tag, text }
  | .arr [.str tag, .str text, .str param] => some { tag, text, param := some param }
  | _ => none

end CommentTag

namespace Comment

def fieldNames : List String := ["shortText", "text", "returns", "tags"]

/-- The comment tags of a list. -/
def tags? : Json → Option (List CommentTag)
  | .arr items => items.mapM CommentTag.ofJson?
  | _ => none

def ofJson? : Json → Option Comment
  | .obj members =>
    if distinct fieldNames members then do
      let shortText ← nullableText "shortText" members
      let text ← nullableText "text" members
      let returns ← nullableText "returns" members
      let tags ← defaulted "tags" members [] ((Assoc.get? "tags" members).bind tags?)
      return { shortText, text, returns, tags, extra := others fieldNames members }
    else none
  | _ => none

end Comment

namespace TypeParameter

def ofJson? : Json → Option TypeParameter
  | .obj members =>
    if distinct ["name"] members then do
      return { name := ← text? "name" members, extra := others ["name"] members }
    else none
  | _ => none

/-- The generic parameters of a list. -/
def listOfJson? : Json → Option (List TypeParameter)
  | .arr items => items.mapM ofJson?
  | _ => none

end TypeParameter

namespace Literal

/-- A literal value: `null`, a flag, a number, a string, or an object that spells a big integer. -/
def ofJson? : Json → Option Literal
  | .null => some .null
  | .bool b => some (.bool b)
  | .num n => some (.number n)
  | .str s => some (.text s)
  | .obj members =>
    if distinct ["value", "negative"] members then do
      let digits ← text? "value" members
      let negative ← (Assoc.get? "negative" members).bind Json.flag?
      return .bigint digits negative
    else none
  | .arr _ => none

end Literal

def Parameter.fieldNames : List String := ["id", "name", "type", "defaultValue", "comment"]

def Signature.fieldNames : List String :=
  ["id", "name", "kind", "kindString", "comment", "parameters", "type"]

def Declaration.fieldNames : List String :=
  ["id", "name", "kind", "kindString", "comment", "children", "signatures", "getSignature",
   "setSignature", "type", "typeParameter", "typeParameters", "defaultValue"]

namespace Descriptor

/-- The fields of the payload under a tag, after `type`. -/
def fieldNames : Tag → List String
  | .array => ["elementType"]
  | .conditional => ["checkType", "extendsType", "trueType", "falseType"]
  | .indexedAccess => ["objectType", "indexType"]
  | .inferred | .intrinsic | .unknown => ["name"]
  | .intersection | .union => ["types"]
  | .predicate => ["name", "asserts", "targetType"]
  | .reference => ["name", "id", "typeArguments", "qualifiedName", "package"]
  | .reflection => ["declaration"]
  | .literal => ["value"]
  | .tuple => ["elements"]
  | .typeOperator => ["operator", "target"]

/-- The members of a tagged object that are neither its tag nor fields of its payload. -/
def othersOf (tag : Tag) (members : Assoc Json) : Extra :=
  others ("type" :: fieldNames tag) members

end Descriptor

mutual

/-- The descriptor that a value describes. It is never refused. -/
def Descriptor.ofJson : Json → Descriptor
  | .obj members =>
    let decoded : Option Descriptor := do
      let tag ← Tag.classify (.obj members)
      let extra := Descriptor.othersOf tag members
      if !distinct (Descriptor.fieldNames tag) members then none
      else
        match tag with
        | .array => return .array (← descriptorAt "elementType" members) extra
        | .conditional =>
          return .conditional (← descriptorAt "checkType" members)
            (← descriptorAt "extendsType" members) (← descriptorAt "trueType" members)
            (← descriptorAt "falseType" members) extra
        | .indexedAccess =>
          return .indexedAccess (← descriptorAt "objectType" members)
            (← descriptorAt "indexType" members) extra
        | .inferred =>
          return .inferred (← defaulted "name" members "" (text? "name" members)) extra
        | .intersection =>
          return .intersection (← defaulted "types" members [] (descriptorsAt "types" members))
            extra
        | .intrinsic =>
          return .intrinsic (← defaulted "name" members "" (text? "name" members)) extra
        | .predicate =>
          return .predicate (← text? "name" members)
            (← defaulted "asserts" members false ((Assoc.get? "asserts" members).bind Json.flag?))
            (← nullable "targetType" members (descriptorAt "targetType" members)) extra
        | .reference =>
          return .reference (← text? "name" members) (← nullableId members)
            (← nullable "typeArguments" members (descriptorsAt "typeArguments" members))
            (← nullableText "qualifiedName" members) (← nullableText "package" members) extra
        | .reflection =>
          return .reflection
            (← nullable "declaration" members (declarationAt "declaration" members)) extra
        | .literal =>
          return .literal
            (← defaulted "value" members .null ((Assoc.get? "value" members).bind Literal.ofJson?))
            extra
        | .tuple =>
          return .tuple (← nullable "elements" members (descriptorsAt "elements" members)) extra
        | .typeOperator =>
          return .typeOperator (← text? "operator" members) (← descriptorAt "target" members) extra
        | .union =>
          return .union (← defaulted "types" members [] (descriptorsAt "types" members)) extra
        | .unknown =>
          return .unknown (← defaulted "name" members "" (text? "name" members)) extra
    decoded.getD (.unrecognized (.obj members))
  | value => .unrecognized value

def Parameter.ofJson? : Json → Option Parameter
  | .obj members =>
    if distinct Parameter.fieldNames members then do
      let id ← nullableId members
      let name ← text? "name" members
      let type ← nullable "type" members (descriptorAt "type" members)
      let defaultValue ← nullableText "defaultValue" members
      let comment ← nullable "comment" members ((Assoc.get? "comment" members).bind Comment.ofJson?)
      return { id, name, type, defaultValue, comment, extra := others Parameter.fieldNames members }
    else none
  | _ => none

def Signature.ofJson? : Json → Option Signature
  | .obj members =>
    if distinct Signature.fieldNames members then do
      let id ← nullableId members
      let name ← text? "name" members
      let kind ← nullable "kind" members ((Assoc.get? "kind" members).bind RawKind.ofJson?)
      let kindString ← nullableText "kindString" members
      let comment ← nullable "comment" members ((Assoc.get? "comment" members).bind Comment.ofJson?)
      let parameters ← nullable "parameters" members (parametersAt "parameters" members)
      let type ← nullable "type" members (descriptorAt "type" members)
      return { id, name, kind, kindString, comment, parameters, type,
               extra := others Signature.fieldNames members }
    else none
  | _ => none

def Declaration.ofJson? : Json → Option Declaration
  | .obj members =>
    if distinct Declaration.fieldNames members then do
      let id ← nullableId members
      let name ← text? "name" members
      let kind ← nullable "kind" members ((Assoc.get? "kind" members).bind RawKind.ofJson?)
      let kindString ← nullableText "kindString" members
      let comment ← nullable "comment" members ((Assoc.get? "comment" members).bind Comment.ofJson?)
      let children ← nullable "children" members (declarationsAt "children" members)
      let signatures ← nullable "signatures" members (signaturesAt "signatures" members)
      let getSignature ← nullable "getSignature" members (oneOrManyAt "getSignature" members)
      let setSignature ← nullable "setSignature" members (oneOrManyAt "setSignature" members)
      let type ← nullable "type" members (descriptorAt "type" members)
      let typeParameter ← nullable "typeParameter" members
        ((Assoc.get? "typeParameter" members).bind TypeParameter.listOfJson?)
      let typeParameters ← nullable "typeParameters" members
        ((Assoc.get? "typeParameters" members).bind TypeParameter.listOfJson?)
      let defaultValue ← nullableText "defaultValue" members
      return { id, name, kind, kindString, comment, children, signatures, getSignature,
               setSignature, type, typeParameter, typeParameters, defaultValue,
               extra := others Declaration.fieldNames members }
    else none
  | _ => none

/-- The descriptors of a list. -/
def Descriptor.listOfJson? : Json → Option (List Descriptor)
  | .arr items => some (descriptors items)
  | _ => none

/-- The parameters of a list. -/
def Parameter.listOfJson? : Json → Option (List Parameter)
  | .arr items => parameters? items
  | _ => none

/-- The signatures of a list. -/
def Signature.listOfJson? : Json → Option (List Signature)
  | .arr items => signatures? items
  | _ => none

/-- The declarations of a list. -/
def Declaration.listOfJson? : Json → Option (List Declaration)
  | .arr items => declarations? items
  | _ => none

def descriptors : List Json → List Descriptor
  | [] => []
  | item :: rest => Descriptor.ofJson item :: descriptors rest

def parameters? : List Json → Option (List Parameter)
  | [] => some []
  | item :: rest => do return (← Parameter.ofJson? item) :: (← parameters? rest)

def signatures? : List Json → Option (List Signature)
  | [] => some []
  | item :: rest => do return (← Signature.ofJson? item) :: (← signatures? rest)

def declarations? : List Json → Option (List Declaration)
  | [] => some []
  | item :: rest => do return (← Declaration.ofJson? item) :: (← declarations? rest)

/-- The descriptor under a key. -/
def descriptorAt (name : String) : List (String × Json) → Option Descriptor
  | [] => none
  | (key, value) :: rest =>
    if key = name then some (Descriptor.ofJson value) else descriptorAt name rest

/-- The list of descriptors under a key. -/
def descriptorsAt (name : String) : List (String × Json) → Option (List Descriptor)
  | [] => none
  | (key, value) :: rest =>
    if key = name then Descriptor.listOfJson? value else descriptorsAt name rest

/-- The declaration under a key. -/
def declarationAt (name : String) : List (String × Json) → Option Declaration
  | [] => none
  | (key, value) :: rest =>
    if key = name then Declaration.ofJson? value else declarationAt name rest

/-- The list of declarations under a key. -/
def declarationsAt (name : String) : List (String × Json) → Option (List Declaration)
  | [] => none
  | (key, value) :: rest =>
    if key = name then Declaration.listOfJson? value else declarationsAt name rest

/-- The list of signatures under a key. -/
def signaturesAt (name : String) : List (String × Json) → Option (List Signature)
  | [] => none
  | (key, value) :: rest =>
    if key = name then Signature.listOfJson? value else signaturesAt name rest

/-- The signature or signatures under a key. -/
def oneOrManyAt (name : String) : List (String × Json) → Option (OneOrMany Signature)
  | [] => none
  | (key, value) :: rest =>
    if key = name then
      match value with
      | .arr items => (signatures? items).map .many
      | value => (Signature.ofJson? value).map .one
    else oneOrManyAt name rest

/-- The list of parameters under a key. -/
def parametersAt (name : String) : List (String × Json) → Option (List Parameter)
  | [] => none
  | (key, value) :: rest =>
    if key = name then Parameter.listOfJson? value else parametersAt name rest

end

end TsWorkshop
