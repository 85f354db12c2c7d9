import TsWorkshop.Docs.Serializer

/-!
From declarations to blocks. Containers are entered; every other declaration is documented by the
serializer of its kind, or by its name, kind and comment alone, which is reported.
-/

namespace TsWorkshop

mutual

/-- The block of a declaration. -/
def Declaration.toBlock (r : Registry) : Declaration → Block
  | d@{ children, .. } =>
    { name := d.name
      kind := d.kindLabel
      comment := d.comment
      fragment :=
        if d.declaredKind.isContainer then
          match children with
          | some (child :: rest) => some (.container (blocksOf r (child :: rest)))
          | _ => none
        else (r.find? d.declaredKind).map fun s => s.fragment d }

/-- The blocks of declarations, in order. -/
def blocksOf (r : Registry) : List Declaration → List Block
  | [] => []
  | d :: rest => d.toBlock r :: blocksOf r rest

end

/-- The event for a declaration whose kind has no serializer. -/
def undocumented (d : Declaration) : Event :=
  { level := .warn, target := "tanuki::docs"
    message := "Unknown " ++ d.kindLabel ++ ": " ++ d.name }

mutual

/-- The events reported while a declaration is documented. -/
def Declaration.warnings (r : Registry) : Declaration → List Event
  | d@{ children, .. } =>
    if d.declaredKind.isContainer then
      match children with
      | some children => warningsOf r children
      | none => []
    else
      match r.find? d.declaredKind with
      | some s => s.events d
      | none => [undocumented d]

/-- The events reported while declarations are documented, in order. -/
def warningsOf (r : Registry) : List Declaration → List Event
  | [] => []
  | d :: rest => d.warnings r ++ warningsOf r rest

end

end TsWorkshop
