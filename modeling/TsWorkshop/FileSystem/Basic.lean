import TsWorkshop.FileSystem.Path

/-!
A file system without links: a map from places to entries. A place is the list of names on the way
from the root; the root itself is always a directory.
-/

namespace TsWorkshop

/-- What stands at a place. -/
inductive Entry where
  | file (content : ByteArray) (executable : Bool)
  | directory

/-- The names on the way from the root. -/
abbrev Place := List String

/-- The entries below the root. -/
structure FileSystem where
  entries : List (Place × Entry) := []

namespace Entry

def isFile : Entry → Bool
  | file _ _ => true
  | directory => false

def isDirectory : Entry → Bool
  | file _ _ => false
  | directory => true

end Entry

namespace FileSystem

/-- The entry of the first pair for a place. -/
def find? (p : Place) : List (Place × Entry) → Option Entry
  | [] => none
  | (q, e) :: rest => if q = p then some e else find? p rest

/-- The entry at a place. -/
def get? (fs : FileSystem) (p : Place) : Option Entry :=
  if p = [] then some .directory else find? p fs.entries

/-- Sets the entry of a place. -/
def put (fs : FileSystem) (p : Place) (e : Entry) : FileSystem :=
  { entries := (p, e) :: fs.entries.filter fun (q, _) => q ≠ p }

/-- Whether `q` lies strictly below `p`. -/
def isBelow (p q : Place) : Bool := p.isPrefixOf q && p ≠ q

/-- Removes everything strictly below a place. -/
def eraseBelow (fs : FileSystem) (p : Place) : FileSystem :=
  { entries := fs.entries.filter fun (q, _) => !isBelow p q }

/-- Removes a place and everything below it. -/
def erase (fs : FileSystem) (p : Place) : FileSystem :=
  { entries := fs.entries.filter fun (q, _) => !p.isPrefixOf q }

/-- The last name of `q`, if that is all that it has behind `p`. -/
def childName? (p q : Place) : Option String := if q.dropLast = p then q.getLast? else none

/-- The names in a directory, as its entries come. -/
def children (fs : FileSystem) (p : Place) : List String :=
  fs.entries.filterMap fun (q, _) => childName? p q

/-- The entries strictly below a place, each with the names that lead to it from there. -/
def below (fs : FileSystem) (p : Place) : List (Place × Entry) :=
  (fs.entries.filter fun (q, _) => isBelow p q).map fun (q, e) => (q.drop p.length, e)

theorem find?_filter_ne (p q : Place) (entries : List (Place × Entry)) (h : q ≠ p) :
    find? q (entries.filter fun (r, _) => r ≠ p) = find? q entries := by
  induction entries with
  | nil => rfl
  | cons pair rest ih =>
    obtain ⟨r, e⟩ := pair
    by_cases hr : r = p
    · subst hr
      rw [List.filter_cons_of_neg (by simp), ih]
      simp [find?, Ne.symm h]
    · rw [List.filter_cons_of_pos (by simpa using hr)]
      by_cases hq : r = q
      · simp [find?, hq]
      · simpa [find?, hq] using ih

/-- Putting an entry sets its place. -/
theorem get?_put_self (fs : FileSystem) (p : Place) (e : Entry) (h : p ≠ []) :
    (fs.put p e).get? p = some e := by
  simp [get?, put, find?, h]

/-- Putting an entry leaves every other place as it is. -/
theorem get?_put_of_ne (fs : FileSystem) (p q : Place) (e : Entry) (h : q ≠ p) :
    (fs.put p e).get? q = fs.get? q := by
  have := find?_filter_ne p q fs.entries h
  simp only [get?, put, find?, Ne.symm h, if_false, this]

end FileSystem

end TsWorkshop
