import TsWorkshop.Config.Basic
import TsWorkshop.Json.Complaint

/-!
Settings: the values of a configuration that is put together from layers. Every part of a setting
knows the layer that it comes from, so that a complaint can name it. A later layer is laid over an
earlier one by `Setting.overlaid`: dictionaries are combined key by key, and everything else is
replaced as a whole.
-/

namespace TsWorkshop

/-- A layer of a configuration. -/
inductive Origin where
  | defaults
  /-- A field of a package description. -/
  | package
  /-- A file of its own, by the way messages show it, and its format. -/
  | file (shown format : String)
  | environment
  | overrides
  deriving DecidableEq, Repr

/-- The part of a message that names a layer. -/
def Origin.phrase : Origin → String
  | defaults => " in loading.rs tanuki::config::TanukiConfig"
  | package | overrides => " in loading.rs serde_json::value::Value"
  | file shown format => " in " ++ shown ++ " " ++ format ++ " file"
  | environment => " in \x60TANUKI_\x60 environment variable(s)"

/-- The place of a setting as a layer's messages show it: variables are written in upper case, and
all other layers write the name of the profile first. -/
def Origin.key (path : List String) : Origin → String
  | environment => Text.asciiUpper (Text.join "." path)
  | _ => Text.join "." ("default" :: path)

/-- A value without parts. Layers differ in whether they sign their whole numbers. -/
inductive Scalar where
  | empty
  | bool (b : Bool)
  | signed (n : Int)
  | unsigned (n : Nat)
  | float (x : Binary64)
  /-- An infinity, or what is not a number, by its name. -/
  | notFinite (name : String)
  /-- A single character in quotes of its own. -/
  | char (c : Char)
  | text (s : String)
  deriving DecidableEq, Repr

/-- A value of a layer, without the layer. -/
inductive Data where
  | scalar (s : Scalar)
  | list (items : List Data)
  | dict (members : List (String × Data))
  deriving Repr

/-- A value whose parts know the layers that they come from. The keys of a dictionary increase. -/
inductive Setting where
  | scalar (origin : Origin) (s : Scalar)
  | list (origin : Origin) (items : List Setting)
  | dict (origin : Origin) (members : List (String × Setting))
  deriving Repr

namespace Data

mutual

/-- The data of a JSON value; a whole number is signed only if it is negative. -/
def ofJson : Json → Data
  | .null => scalar .empty
  | .bool b => scalar (.bool b)
  | .num (.whole n) => scalar (if 0 ≤ n then .unsigned n.toNat else .signed n)
  | .num (.float x) => scalar (.float x)
  | .str s => scalar (.text s)
  | .arr items => list (ofJsonItems items)
  | .obj members => dict (ofJsonMembers members)

def ofJsonItems : List Json → List Data
  | [] => []
  | item :: rest => ofJson item :: ofJsonItems rest

def ofJsonMembers : List (String × Json) → List (String × Data)
  | [] => []
  | (key, value) :: rest => (key, ofJson value) :: ofJsonMembers rest

end

end Data

namespace Setting

def origin : Setting → Origin
  | scalar o _ | list o _ | dict o _ => o

/-- The members of a dictionary; nothing else has members. -/
def members : Setting → Assoc Setting
  | dict _ members => members
  | _ => []

mutual

/-- A value of a layer, the last of several members with one key. -/
def ofData (origin : Origin) : Data → Setting
  | .scalar s => scalar origin s
  | .list items => list origin (ofDataItems origin items)
  | .dict members => dict origin (Assoc.sorted (ofDataMembers origin members))

def ofDataItems (origin : Origin) : List Data → List Setting
  | [] => []
  | item :: rest => ofData origin item :: ofDataItems origin rest

def ofDataMembers (origin : Origin) : List (String × Data) → List (String × Setting)
  | [] => []
  | (key, value) :: rest => (key, ofData origin value) :: ofDataMembers origin rest

end

/-- The setting of a JSON value. -/
def ofJson (origin : Origin) (value : Json) : Setting := ofData origin (Data.ofJson value)

mutual

/-- Lays a later setting over an earlier one. A dictionary keeps what the later one does not set,
and counts as the later layer's. -/
def overlaid (earlier : Setting) : Setting → Setting
  | dict origin later => dict origin (overlaidMembers earlier.members later)
  | scalar origin s => scalar origin s
  | list origin items => list origin items

/-- Lays later members over earlier ones, key by key. -/
def overlaidMembers (earlier : Assoc Setting) : List (String × Setting) → Assoc Setting
  | [] => earlier
  | (key, value) :: rest =>
    overlaidMembers
      (earlier.insertSorted key
        (match earlier.get? key with
        | some old => overlaid old value
        | none => value)) rest

end

end Setting

end TsWorkshop
