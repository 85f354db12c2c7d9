import TsWorkshop.Json.Basic
import TsWorkshop.Proofs.Assoc

/-!
Places in a JSON value, named by paths of keys and indices. A path is followed to the value that
stands at its end, and that value can be replaced by another one.
-/

namespace TsWorkshop.Json

/-- One step into a value: to the first member with a key, or to an item. -/
inductive Step where
  | key (name : String)
  | item (index : Nat)
  deriving DecidableEq, Repr

/-- The steps from a value to one of its parts. -/
abbrev Path := List Step

/-- The value at the end of a path. -/
def at? : Path → Json → Option Json
  | [], v => some v
  | .key name :: rest, obj members => (Assoc.get? name members).bind fun v => v.at? rest
  | .item i :: rest, arr items => items[i]?.bind fun v => v.at? rest
  | _ :: _, _ => none

/-- Another value at the end of a path that leads somewhere, and everything else as it stands. -/
def replace? : Path → Json → Json → Option Json
  | [], _, new => some new
  | .key name :: rest, obj members, new =>
    ((Assoc.get? name members).bind fun v => v.replace? rest new).map fun w =>
      obj (Assoc.put name w members)
  | .item i :: rest, arr items, new =>
    (items[i]?.bind fun v => v.replace? rest new).map fun w => arr (items.set i w)
  | _ :: _, _, _ => none

/-- Replacing the value at the end of a path by itself changes nothing. -/
theorem replace?_of_at? (path : Path) (v old : Json) (h : v.at? path = some old) :
    v.replace? path old = some v := by
  induction path generalizing v with
  | nil => exact h.symm
  | cons step rest ih =>
    cases step with
    | key name =>
      cases v with
      | obj members =>
        obtain ⟨part, found, inside⟩ := Option.bind_eq_some_iff.mp h
        simp [replace?, found, ih part inside, Assoc.put_of_get? name part members found]
      | null | bool | num | str | arr => cases h
    | item i =>
      cases v with
      | arr items =>
        obtain ⟨part, found, inside⟩ := Option.bind_eq_some_iff.mp h
        obtain ⟨bound, rfl⟩ := List.getElem?_eq_some_iff.mp found
        simp [replace?, found, ih _ inside]
      | null | bool | num | str | obj => cases h

end TsWorkshop.Json
