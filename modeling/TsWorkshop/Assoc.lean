/-!
Dictionaries kept as lists of pairs, in the order that an answer shows. `Assoc.put` keeps the place
of a name that is already there; `Assoc.insertSorted` keeps the names in increasing order.
-/

namespace TsWorkshop

/-- Names with their values, in order. -/
abbrev Assoc (α : Type u) := List (String × α)

namespace Assoc

variable {α : Type u}

/-- The value of the first entry for a name. -/
def get? (name : String) : Assoc α → Option α
  | [] => none
  | (key, value) :: rest => if key = name then some value else get? name rest

/-- Whether a name has an entry. -/
def has (name : String) (entries : Assoc α) : Bool := (entries.get? name).isSome

/-- Sets the value of a name: in its place if the name is there, else at the end. -/
def put (name : String) (value : α) : Assoc α → Assoc α
  | [] => [(name, value)]
  | (key, old) :: rest =>
    if key = name then (key, value) :: rest else (key, old) :: put name value rest

/-- Sets the value of a name in a list ordered by name. -/
def insertSorted (name : String) (value : α) : Assoc α → Assoc α
  | [] => [(name, value)]
  | (key, old) :: rest =>
    if name < key then (name, value) :: (key, old) :: rest
    else if key = name then (key, value) :: rest
    else (key, old) :: insertSorted name value rest

/-- The entries with a repeated name folded into its first place, the last value winning. -/
def merged (entries : Assoc α) : Assoc α :=
  entries.foldl (fun acc (key, value) => acc.put key value) []

/-- The entries in increasing order of names, the last value of a repeated name winning. -/
def sorted (entries : Assoc α) : Assoc α :=
  entries.foldl (fun acc (key, value) => acc.insertSorted key value) []

/-- The entries of every other name. -/
def erase (name : String) (entries : Assoc α) : Assoc α :=
  entries.filter fun (key, _) => key ≠ name

/-- How often a name occurs. -/
def count (name : String) (entries : Assoc α) : Nat :=
  entries.countP fun (key, _) => key = name

end Assoc

end TsWorkshop
