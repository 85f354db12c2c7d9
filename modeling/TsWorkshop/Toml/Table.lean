import TsWorkshop.Config.Setting
import TsWorkshop.Toml.Fault

/-!
Tables of a TOML document while it is read. A table is opened once: by its header, or by the keys
with points that set its members. Tables on the way to another one may still be opened by a header.
-/

namespace TsWorkshop.Toml

/-- What has made a table. -/
inductive Origin where
  | header
  /-- The way to a table that was opened by a header. -/
  | way
  /-- A key with points. -/
  | dottedKey
  deriving DecidableEq, Repr

/-- The type of a value, as faults name it. -/
inductive ValueType where
  | string | integer | float | boolean | datetime | array | inlineTable
  deriving DecidableEq, Repr

def ValueType.name : ValueType → String
  | string => "string"
  | integer => "integer"
  | float => "float"
  | boolean => "boolean"
  | datetime => "datetime"
  | array => "array"
  | inlineTable => "inline table"

/-- A value with its type. -/
structure Value where
  type : ValueType
  data : Data

/-- What a key stands for. -/
inductive Item where
  | value (v : Value)
  | table (origin : Origin) (members : List (String × Item))
  /-- The tables that were opened by headers in double brackets. -/
  | tables (items : List (List (String × Item)))

/-- The members of a table. -/
abbrev Table := List (String × Item)

mutual

def Item.toData : Item → Data
  | .value v => v.data
  | .table _ members => .dict (membersToData members)
  | .tables items => .list (tablesToData items)

def membersToData : List (String × Item) → List (String × Data)
  | [] => []
  | (key, item) :: rest => (key, item.toData) :: membersToData rest

def tablesToData : List (List (String × Item)) → List Data
  | [] => []
  | members :: rest => .dict (membersToData members) :: tablesToData rest

end

namespace Table

/-- Changes the last of some tables. -/
def changeLast (change : Table → Except Cause Table) : List Table → Except Cause (List Table)
  | [] => .ok []
  | [last] => (change last).map ([·])
  | first :: rest => (changeLast change rest).map (first :: ·)

/-- Changes the table at the end of a path, which is `before` and then `path`. Missing tables on the
way are made with the given origin. By keys with points only tables of such keys are entered, and
the ways to others. -/
def change (origin : Origin) (before path : List String)
    (f : Bool → Table → Except Cause Table) (isDotted : Bool) (members : Table) :
    Except Cause Table :=
  match path with
  | [] => f isDotted members
  | key :: rest =>
    let further := before ++ [key]
    match Assoc.get? key members with
    | none => do
      let made ← change origin further rest f (origin = .dottedKey) []
      return members ++ [(key, .table origin made)]
    | some (.table found inner) =>
      if origin = .dottedKey ∧ found = .header then .error (.duplicateKey key none)
      else do
        let inner ← change origin further rest f (found = .dottedKey) inner
        return Assoc.put key (.table found inner) members
    | some (.tables items) => do
      let items ← changeLast (change origin further rest f false) items
      return Assoc.put key (.tables items) members
    | some (.value v) => .error (.notTable further v.type.name)

/-- Sets a value by a key with points, `table` being the path of the header above it. -/
def set (table : Option (List String)) (path : List String) (key : String) (v : Value)
    (members : Table) : Except Cause Table :=
  change .dottedKey [] path (fun isDotted members =>
    if isDotted = path.isEmpty then .error (.duplicateKey key none)
    else if Assoc.has key members then .error (.duplicateKey key table)
    else .ok (members ++ [(key, .value v)])) false members

/-- Opens the table of a header. -/
def openTable (path : List String) (key : String) (members : Table) : Except Cause Table :=
  change .way [] path (fun _ members =>
    match Assoc.get? key members with
    | none => .ok (members ++ [(key, .table .header [])])
    | some (.table .way inner) => .ok (Assoc.put key (.table .header inner) members)
    | some _ => .error (.duplicateKey key (some path))) false members

/-- Adds an empty table to those of a header in double brackets. -/
def addTable (path : List String) (key : String) (members : Table) : Except Cause Table :=
  change .way [] path (fun _ members =>
    match Assoc.get? key members with
    | none => .ok (members ++ [(key, .tables [[]])])
    | some (.tables items) => .ok (Assoc.put key (.tables (items ++ [[]])) members)
    | some _ => .error (.duplicateKey key (some path))) false members

/-- Changes the table of the header with a path. -/
def within (path : List String) (f : Table → Except Cause Table) (members : Table) :
    Except Cause Table :=
  change .way [] path (fun _ members => f members) false members

end Table

end TsWorkshop.Toml
