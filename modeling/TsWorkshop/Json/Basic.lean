import TsWorkshop.Assoc
import TsWorkshop.Number.Binary64

/-!
JSON values. An object is a list of members in the order in which they stand in a text;
`Json.canonical` is the representative that a value read for its content alone has: members in
increasing order of their keys, the last of several members with one key.
-/

namespace TsWorkshop

/-- A JSON number: a whole number written without point and exponent, or a floating-point number. -/
inductive JsonNumber where
  | whole (n : Int)
  | float (x : Binary64)
  deriving DecidableEq, Repr, Inhabited

/-- A JSON value with the members of its objects in order. -/
inductive Json where
  | null
  | bool (b : Bool)
  | num (n : JsonNumber)
  | str (s : String)
  | arr (items : List Json)
  | obj (members : List (String × Json))
  deriving Repr, Inhabited

namespace JsonNumber

/-- The text of a number. -/
def text : JsonNumber → String
  | whole n => toString n
  | float x => x.scientific

end JsonNumber

namespace Json

mutual

/-- Members sorted by key at every depth, the last of several members with one key. -/
def canonical : Json → Json
  | arr items => arr (canonicalItems items)
  | obj members => obj (Assoc.sorted (canonicalMembers members))
  | null => null
  | bool b => bool b
  | num n => num n
  | str s => str s

def canonicalItems : List Json → List Json
  | [] => []
  | item :: rest => item.canonical :: canonicalItems rest

def canonicalMembers : List (String × Json) → List (String × Json)
  | [] => []
  | (key, value) :: rest => (key, value.canonical) :: canonicalMembers rest

end

mutual

/-- Equality of values, members compared in order. -/
def equal : Json → Json → Bool
  | null, null => true
  | bool a, bool b => a == b
  | num a, num b => a == b
  | str a, str b => a == b
  | arr xs, arr ys => equalItems xs ys
  | obj xs, obj ys => equalMembers xs ys
  | _, _ => false

def equalItems : List Json → List Json → Bool
  | [], [] => true
  | x :: xs, y :: ys => equal x y && equalItems xs ys
  | _, _ => false

def equalMembers : List (String × Json) → List (String × Json) → Bool
  | [], [] => true
  | (k, x) :: xs, (l, y) :: ys => k == l && equal x y && equalMembers xs ys
  | _, _ => false

end

instance : BEq Json := ⟨equal⟩

/-- The members of an object. -/
def members? : Json → Option (List (String × Json))
  | obj members => some members
  | _ => none

/-- The member of an object with the given key. -/
def field? (key : String) : Json → Option Json
  | obj members => Assoc.get? key members
  | _ => none

/-- The text of a string value. -/
def text? : Json → Option String
  | str s => some s
  | _ => none

/-- The flag of a Boolean value. -/
def flag? : Json → Option Bool
  | bool b => some b
  | _ => none

/-- A whole number between the given bounds. -/
def whole? (low high : Int) : Json → Option Int
  | num (.whole n) => if low ≤ n ∧ n ≤ high then some n else none
  | _ => none

/-- The items of an array. -/
def items? : Json → Option (List Json)
  | arr items => some items
  | _ => none

def ofBool (b : Bool) : Json := bool b

/-- A whole number. -/
def ofInt (n : Int) : Json := num (.whole n)

end Json

end TsWorkshop
