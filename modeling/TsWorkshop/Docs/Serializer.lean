import TsWorkshop.Docs.Block
import TsWorkshop.Json.Printer
import TsWorkshop.Event

/-!
Serializers: for a kind of declaration, the fragment that documents it and the events that report
what had to be left out. A `Registry` says which serializer documents which kind.
-/

namespace TsWorkshop

/-- A way of documenting one kind of declaration. -/
structure Serializer where
  fragment : Declaration → Fragment
  events : Declaration → List Event := fun _ => []

namespace Signature

/-- The parameters of a signature with their types, in parentheses. -/
def parameterList (s : Signature) : String :=
  "(" ++ Text.join ", " ((s.parameters.getD []).map fun p =>
    p.name ++ ": " ++ renderOptional p.type) ++ ")"

end Signature

namespace Parameter

def toBlock (p : Parameter) : ParameterBlock :=
  { name := p.name, type := .describe p.type, defaultValue := p.defaultValue, comment := p.comment }

end Parameter

namespace Signature

/-- A signature with its parameters and the type that it returns. -/
def toBlock (s : Signature) : SignatureBlock :=
  let returns := TypeBlock.describe s.type
  { type := returns
    asString := s.name ++ s.parameterList ++ ": " ++ returns.value
    params := s.parameters.map fun ps => ps.map Parameter.toBlock
    returnType := some returns
    comment := s.comment }

/-- A signature of a constructor: only the tag of its type, and no returned type. -/
def toConstructorBlock? (s : Signature) : Option SignatureBlock :=
  s.type.map fun type =>
    { type := .tagged type
      asString := s.name ++ s.parameterList
      params := none
      returnType := none
      comment := s.comment }

end Signature

namespace Serializer

/-- The event for a signature without a type of the constructor called `name`. -/
def typelessSignature (name : String) (s : Signature) : Event :=
  { level := .warn
    target := "tanuki::serialization::constructor"
    message := "Unable to retrieve type for constructor signature, skipping"
    fields := [("constructor", name), ("signature", s.toJson.compact)] }

/-- Constructors: signatures without a type are left out and reported. -/
def constructor : Serializer where
  fragment d := .signatures ((d.signatures.getD []).filterMap Signature.toConstructorBlock?)
  events d :=
    ((d.signatures.getD []).filter fun s => s.type.isNone).map (typelessSignature d.name)

/-- Methods: all signatures in order. -/
def method : Serializer where
  fragment d := .signatures ((d.signatures.getD []).map Signature.toBlock)

/-- Functions: all signatures in order. -/
def function : Serializer where
  fragment d := .signatures ((d.signatures.getD []).map Signature.toBlock)

/-- Variables: the type and the text of the initial value. -/
def variableDecl : Serializer where
  fragment d := .typed (some (.describe d.type)) d.defaultValue

/-- Properties: the type alone. -/
def property : Serializer where
  fragment d := .typed (some (.describe d.type)) none

/-- A member of an enumeration: the value is its literal type, or else its initial value. -/
def enumMember (d : Declaration) : EnumMemberBlock :=
  { name := d.name
    value :=
      match d.type with
      | some (.literal value _) => some value.render
      | _ => d.defaultValue
    comment := d.comment }

/-- Enumerations: the members in order. -/
def enum : Serializer where
  fragment d := .enum (d.members.map enumMember)

/-- Type aliases: the generic parameters and the type that is named. -/
def typeAlias : Serializer where
  fragment d :=
    let names := d.generics.map fun ps => ps.map fun p => p.name
    let brackets :=
      match names with
      | some names => "<" ++ Text.join ", " names ++ ">"
      | none => ""
    let target := TypeBlock.describe d.type
    .typeAlias names target ("type " ++ d.name ++ brackets ++ " = " ++ target.value)

/-- The signatures of an accessor. -/
def accessorBlocks (signatures : List Signature) : List SignatureBlock :=
  signatures.map Signature.toBlock

/-- Accessors: the signatures for getting and for setting. -/
def accessor : Serializer where
  fragment d :=
    .accessor (d.getSignature.map fun s => accessorBlocks s.toList)
      (d.setSignature.map fun s => accessorBlocks s.toList)

/-- The serializers by name. -/
def named : Assoc Serializer :=
  [("Constructor", constructor), ("Method", method), ("Function", function),
   ("Variable", variableDecl), ("Property", property), ("Enum", enum), ("TypeAlias", typeAlias),
   ("Accessor", accessor)]

end Serializer

/-- Which serializer documents which kind. Kinds that are containers are never looked up. -/
structure Registry where
  find? : Kind → Option Serializer

namespace Registry

/-- No serializers at all. -/
def empty : Registry := ⟨fun _ => none⟩

/-- Documents a kind with a serializer, in place of the one before. -/
def register (r : Registry) (kind : Kind) (s : Serializer) : Registry :=
  ⟨fun k => if k = kind then some s else r.find? k⟩

/-- The serializers of the kinds that are documented by default. -/
def default : Registry :=
  empty.register .constructor Serializer.constructor
    |>.register .method Serializer.method
    |>.register .function Serializer.function
    |>.register .variableDecl Serializer.variableDecl
    |>.register .property Serializer.property
    |>.register .enum Serializer.enum
    |>.register .typeAlias Serializer.typeAlias
    |>.register .accessor Serializer.accessor

instance : Inhabited Registry := ⟨default⟩

/-- Whether a kind has a serializer. -/
def contains (r : Registry) (kind : Kind) : Bool := (r.find? kind).isSome

end Registry

end TsWorkshop
