import TsWorkshop.Number.Word
import TsWorkshop.Json.Shape
import TsWorkshop.Reflection.Decode

/-!
Reflection files: the shapes of their records, and reading a text as a record.
-/

namespace TsWorkshop.Reflection

/-- The records of a reflection file that are read field by field. Types are read as whole
values. -/
inductive RecordName where
  | declaration | signature | parameter | typeParameter | comment | commentTag
  deriving DecidableEq, Repr

open RecordName

/-- A field that may be absent or `null`. -/
def nullable (name : String) (shape : Shape RecordName) (optionalItem : Bool := false) :
    Field RecordName :=
  { name, shape, nullable := true, optional := true, optionalItem }

def string : Shape RecordName := .text "a string"

def id : Field RecordName := nullable "id" (.whole "i64" Word.signedMin Word.signedMax)

def kind : Field RecordName :=
  nullable "kind" (.choice "RawKind" fun value => (RawKind.ofJson? value).isSome)

/-- The fields of the records, in order. -/
def grammar : Grammar RecordName
  | declaration =>
    { title := "struct DeclarationNode", keepsOthers := true
      fields :=
        [id, { name := "name", shape := string }, kind, nullable "kindString" string,
         nullable "comment" (.record comment), nullable "children" (.list (.record declaration)),
         nullable "signatures" (.list (.record signature)),
         nullable "getSignature" (.oneOrMany "OneOrMany" signature),
         nullable "setSignature" (.oneOrMany "OneOrMany" signature), nullable "type" .any,
         nullable "typeParameter" (.list (.record typeParameter)),
         nullable "typeParameters" (.list (.record typeParameter)),
         nullable "defaultValue" string] }
  | signature =>
    { title := "struct SignatureDescriptor", keepsOthers := true
      fields :=
        [id, { name := "name", shape := string }, kind, nullable "kindString" string,
         nullable "comment" (.record comment), nullable "parameters" (.list (.record parameter)),
         nullable "type" .any] }
  | parameter =>
    { title := "struct ParameterDescriptor", keepsOthers := true
      fields :=
        [id, { name := "name", shape := string }, nullable "type" .any,
         nullable "defaultValue" string, nullable "comment" (.record comment)] }
  | typeParameter =>
    { title := "struct TypeParameter", keepsOthers := true
      fields := [{ name := "name", shape := string }] }
  | comment =>
    { title := "struct Comment", keepsOthers := true
      fields :=
        [nullable "shortText" string, nullable "text" string, nullable "returns" string,
         { name := "tags", shape := .list (.record commentTag), optional := true }] }
  | commentTag =>
    { title := "struct CommentTag"
      fields :=
        [{ name := "tag", shape := string }, { name := "text", shape := string, optional := true },
         nullable "param" string true] }

/-- Reads a text by a shape and then as a record. A text in shape is never refused afterwards; the
complaint for that case is only there to make the function total. -/
def readAs {α : Type} (shape : Shape RecordName) (decode : Json → Option α) (text : String) :
    Except Complaint α := do
  match decode (← shape.ofText grammar text) with
  | some a => return a
  | none => throw .expectedValue

end TsWorkshop.Reflection

namespace TsWorkshop

open Reflection

/-- Reads a reflection file, or one of its declarations. -/
def Declaration.ofText : String → Except Complaint Declaration :=
  readAs (.record .declaration) Declaration.ofJson?

def Signature.ofText : String → Except Complaint Signature :=
  readAs (.record .signature) Signature.ofJson?

/-- Reads one signature or an array of signatures. -/
def Signature.oneOrManyOfText : String → Except Complaint (OneOrMany Signature) :=
  readAs (.oneOrMany "OneOrMany" .signature) fun value => oneOrManyAt "" [("", value)]

def Comment.ofText : String → Except Complaint Comment :=
  readAs (.record .comment) Comment.ofJson?

def RawKind.ofText : String → Except Complaint RawKind :=
  readAs (.choice "RawKind" fun value => (RawKind.ofJson? value).isSome) RawKind.ofJson?

/-- Reads a type descriptor: any JSON value, for its content. -/
def Descriptor.ofText (text : String) : Except Complaint Descriptor :=
  (Json.contentOfText text).map Descriptor.ofJson

end TsWorkshop
