import TsWorkshop.Config.Inline

/-!
The layer of environment variables. A variable whose name starts with `TANUKI_` sets one leaf: the
rest of its name, in lower case and cut at each `__`, is the path of the leaf.
-/

namespace TsWorkshop

/-- The variables of the environment, in order. -/
abbrev Environment := Assoc String

namespace Environment

/-- What the name of a variable that sets a leaf starts with. -/
def leafMark : String := "TANUKI_"

/-- The part of a name behind the mark, whose letters may be of either case. -/
def leafName? (name : String) : Option String :=
  let size := leafMark.toList.length
  let cs := name.toList
  if Text.asciiUpper (String.ofList (cs.take size)) = leafMark then
    some (String.ofList (cs.drop size))
  else none

/-- A name with a point in the place of each pair of underscores. -/
def pointed : List Char → List Char
  | '_' :: '_' :: rest => '.' :: pointed rest
  | c :: rest => c :: pointed rest
  | [] => []

/-- The path that a variable sets. No part of a path is empty. -/
def leafPath? (name : String) : Option (List String) := do
  let rest ← leafName? (Text.trim name)
  let parts := Text.split '.' (Text.trim (String.ofList (pointed rest.toList)))
  if parts.any fun part => part = "" then none else return parts.map Text.asciiLower

/-- The dictionary that holds nothing but a value at a path. -/
def nested (data : Data) : List String → Data
  | [] => data
  | key :: rest => .dict [(key, nested data rest)]

/-- The layer that one variable makes. -/
def leaf? (name value : String) : Option Data :=
  (leafPath? name).map (nested (Inline.ofText value))

/-- The layer of the environment: a later variable is laid over the earlier ones. -/
def layer (environment : Environment) : Setting :=
  environment.foldl (fun layer (name, value) =>
    match leaf? name value with
    | some data => layer.overlaid (Setting.ofData .environment data)
    | none => layer) (.dict .environment [])

end Environment

end TsWorkshop
