import TsWorkshop.Reflection.Kind
import TsWorkshop.Reflection.Tag

/-!
The reflection tree of a TypeScript project: declarations, their signatures and parameters, and the
descriptors of their types. Every record keeps the members that it has no field for in `extra`, so
that it can be written back.
-/

namespace TsWorkshop

/-- Members that a record has no field for, in order. -/
abbrev Extra := Assoc Json

/-- One item or a list of items; both spellings occur. -/
inductive OneOrMany (α : Type) where
  | one (item : α)
  | many (items : List α)
  deriving Repr

/-- The items of either spelling. -/
def OneOrMany.toList {α : Type} : OneOrMany α → List α
  | one item => [item]
  | many items => items

/-- A tag of a doc comment. -/
structure CommentTag where
  tag : String
  text : String := ""
  param : Option String := none
  deriving DecidableEq, Repr, Inhabited

/-- A doc comment. -/
structure Comment where
  shortText : Option String := none
  text : Option String := none
  returns : Option String := none
  tags : List CommentTag := []
  extra : Extra := []
  deriving Repr, Inhabited

/-- A comment that consists of a short text. -/
def Comment.short (text : String) : Comment := { shortText := some text }

/-- A generic parameter. -/
structure TypeParameter where
  name : String
  extra : Extra := []
  deriving Repr, Inhabited

/-- The value of a literal type. -/
inductive Literal where
  | null
  | bool (b : Bool)
  | number (n : JsonNumber)
  | text (s : String)
  | bigint (digits : String) (negative : Bool)
  deriving DecidableEq, Repr, Inhabited

mutual

/-- The type of something, as a reflection describes it. -/
inductive Descriptor where
  | array (element : Descriptor) (extra : Extra)
  | conditional (check base whenTrue whenFalse : Descriptor) (extra : Extra)
  | indexedAccess (object index : Descriptor) (extra : Extra)
  | inferred (name : String) (extra : Extra)
  | intersection (types : List Descriptor) (extra : Extra)
  | intrinsic (name : String) (extra : Extra)
  | predicate (name : String) (asserts : Bool) (target : Option Descriptor) (extra : Extra)
  | reference (name : String) (id : Option Int64) (arguments : Option (List Descriptor))
      (qualifiedName package : Option String) (extra : Extra)
  | reflection (declaration : Option Declaration) (extra : Extra)
  | literal (value : Literal) (extra : Extra)
  | tuple (elements : Option (List Descriptor)) (extra : Extra)
  | typeOperator (operator : String) (target : Descriptor) (extra : Extra)
  | union (types : List Descriptor) (extra : Extra)
  | unknown (name : String) (extra : Extra)
  /-- A value without a known tag, or whose payload does not fit its tag. -/
  | unrecognized (raw : Json)

/-- A parameter of a signature. -/
structure Parameter where
  id : Option Int64 := none
  name : String
  type : Option Descriptor := none
  defaultValue : Option String := none
  comment : Option Comment := none
  extra : Extra := []

/-- A call, construct, get or set signature. -/
structure Signature where
  id : Option Int64 := none
  name : String
  kind : Option RawKind := none
  kindString : Option String := none
  comment : Option Comment := none
  parameters : Option (List Parameter) := none
  type : Option Descriptor := none
  extra : Extra := []

/-- One symbol of the project; the project itself is a declaration too. -/
structure Declaration where
  id : Option Int64 := none
  name : String
  kind : Option RawKind := none
  kindString : Option String := none
  comment : Option Comment := none
  children : Option (List Declaration) := none
  signatures : Option (List Signature) := none
  getSignature : Option (OneOrMany Signature) := none
  setSignature : Option (OneOrMany Signature) := none
  type : Option Descriptor := none
  typeParameter : Option (List TypeParameter) := none
  typeParameters : Option (List TypeParameter) := none
  defaultValue : Option String := none
  extra : Extra := []

end

instance : Inhabited Descriptor := ⟨.unrecognized .null⟩
instance : Inhabited Parameter := ⟨⟨none, "", none, none, none, []⟩⟩
instance : Inhabited Signature := ⟨⟨none, "", none, none, none, none, none, []⟩⟩
instance : Inhabited Declaration :=
  ⟨⟨none, "", none, none, none, none, none, none, none, none, none, none, none, []⟩⟩

namespace Descriptor

/-- The known tag of a descriptor. -/
def kind? : Descriptor → Option Tag
  | array .. => some .array
  | conditional .. => some .conditional
  | indexedAccess .. => some .indexedAccess
  | inferred .. => some .inferred
  | intersection .. => some .intersection
  | intrinsic .. => some .intrinsic
  | predicate .. => some .predicate
  | reference .. => some .reference
  | reflection .. => some .reflection
  | literal .. => some .literal
  | tuple .. => some .tuple
  | typeOperator .. => some .typeOperator
  | union .. => some .union
  | unknown .. => some .unknown
  | unrecognized _ => none

/-- The text under `type`, known or not. -/
def tag? : Descriptor → Option String
  | unrecognized raw => Tag.textIn? raw
  | d => d.kind?.map Tag.text

end Descriptor

namespace Declaration

/-- The kind of a declaration: what `kindString` names, or else what `kind` resolves to. -/
def declaredKind (d : Declaration) : Kind :=
  ((d.kindString.bind Kind.ofName?).or (d.kind.bind RawKind.resolve)).getD .other

/-- The label of the kind: `kindString` as it stands, or the name under `kind` if it is not known,
or the label of the kind. -/
def kindLabel (d : Declaration) : String :=
  match d.kindString with
  | some label => label
  | none =>
    match d.declaredKind, d.kind with
    | .other, some (.name name) => name
    | kind, _ => kind.label

/-- The generic parameters, under either key. -/
def generics (d : Declaration) : Option (List TypeParameter) := d.typeParameter.or d.typeParameters

/-- The members in order. -/
def members (d : Declaration) : List Declaration := d.children.getD []

/-- A declaration of the given kind with nothing else. -/
def ofKind (name : String) (kind : Kind) : Declaration :=
  { name, kind := some (.bits kind.bits), kindString := some kind.label }

end Declaration

end TsWorkshop
