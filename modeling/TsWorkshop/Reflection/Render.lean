import TsWorkshop.Reflection.Basic

/-!
Types as text. `Descriptor.render` writes a descriptor in the notation of the language; what cannot
be described is written `unknown`.
-/

namespace TsWorkshop

/-- What stands for a type that cannot be described. -/
def unknownType : String := "unknown"

/-- What stands for the parameters of a callable type that lists none. -/
def anyArguments : String := "...args: any[]"

/-- A literal value in the notation of the language. -/
def Literal.render : Literal → String
  | null => "null"
  | bool b => if b then "true" else "false"
  | number n => n.text
  | text s => "'" ++ s ++ "'"
  | bigint digits negative => (if negative then "-" else "") ++ digits ++ "n"

mutual

/-- The text of a type. -/
def Descriptor.render : Descriptor → String
  | .array element _ => element.render ++ "[]"
  | .conditional check base whenTrue whenFalse _ =>
    check.render ++ " extends " ++ base.render ++ " ? " ++ whenTrue.render ++ " : " ++
      whenFalse.render
  | .indexedAccess object index _ => object.render ++ "[" ++ index.render ++ "]"
  | .inferred name _ => name
  | .intersection types _ => Text.join " & " (renderAll types)
  | .intrinsic name _ => name
  | .predicate name asserts target _ =>
    (if asserts then "asserts " else "") ++ name ++
      (match target with
      | some target => " is " ++ target.render
      | none => "")
  | .reference name _ arguments _ _ _ =>
    match arguments with
    | some arguments => name ++ "<" ++ Text.join ", " (renderAll arguments) ++ ">"
    | none => name
  | .reflection declaration _ =>
    match declaration with
    | some declaration => declaration.renderInline
    | none => "\x7b\x7d"
  | .literal value _ => value.render
  | .tuple elements _ =>
    match elements with
    | some elements => "[" ++ Text.join ", " (renderAll elements) ++ "]"
    | none => "[]"
  | .typeOperator operator target _ => operator ++ " " ++ target.render
  | .union types _ =>
    Text.join " | " ((renderAll types).filter fun member => !Text.allBlank member)
  | .unknown name _ => name
  | .unrecognized _ => unknownType

def renderAll : List Descriptor → List String
  | [] => []
  | d :: rest => d.render :: renderAll rest

/-- An inline declaration as a type: an object with its typed members, or its signatures, or the
empty object. -/
def Declaration.renderInline : Declaration → String
  | { children, signatures, .. } =>
    match children with
    | some (child :: rest) =>
      "\x7b\n" ++
        Text.join ",\n" ((Assoc.merged (renderMembers (child :: rest))).map
          fun (name, type) => name ++ ": " ++ type) ++
        "\n\x7d"
    | _ =>
      match signatures with
      | some (signature :: rest) => Text.join "\n" (renderCallables (signature :: rest))
      | _ => "\x7b\x7d"

/-- The typed members of an object, by name. -/
def renderMembers : List Declaration → Assoc String
  | [] => []
  | { name, type, .. } :: rest =>
    match type with
    | some type => (name, type.render) :: renderMembers rest
    | none => renderMembers rest

def renderCallables : List Signature → List String
  | [] => []
  | s :: rest => s.renderCallable :: renderCallables rest

/-- A signature as a function type. -/
def Signature.renderCallable : Signature → String
  | { parameters, type, .. } =>
    "(" ++
      (match parameters with
      | some parameters => Text.join ", " (renderParameters parameters)
      | none => anyArguments) ++
      ") => " ++
      (match type with
      | some type => type.render
      | none => unknownType)

/-- Parameters with their types. -/
def renderParameters : List Parameter → List String
  | [] => []
  | { name, type, .. } :: rest =>
    (name ++ ": " ++
      (match type with
      | some type => type.render
      | none => unknownType)) :: renderParameters rest

end

/-- The text of a type that may be absent. -/
def renderOptional : Option Descriptor → String
  | some type => type.render
  | none => unknownType

end TsWorkshop
