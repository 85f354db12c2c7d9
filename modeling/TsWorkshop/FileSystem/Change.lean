import TsWorkshop.FileSystem.Basic

/-!
What differs between two file systems, as steps that lead from one to the other.
-/

namespace TsWorkshop

/-- A step on the way from one file system to another. -/
inductive Change where
  | remove (place : Place)
  | makeDirectory (place : Place)
  | write (place : Place) (content : ByteArray)

namespace FileSystem

/-- Whether two entries are of one kind. -/
def sameKind (a b : Entry) : Bool := a.isFile == b.isFile

/-- The places whose entries are gone, or are of another kind now. What lies deeper comes first. -/
def removals (before after : FileSystem) : List Change :=
  let gone := before.entries.filter fun (place, entry) =>
    !(after.get? place).any (sameKind entry)
  (gone.mergeSort fun a b => b.1.length ≤ a.1.length).map fun (place, _) => .remove place

/-- The step that gives a place its new entry, if it had another one. -/
def addition? (before : FileSystem) (place : Place) (entry : Entry) : Option Change :=
  match entry, before.get? place with
  | .directory, some .directory => none
  | .directory, _ => some (.makeDirectory place)
  | .file content _, some (.file old _) =>
    if content.data = old.data then none else some (.write place content)
  | .file content _, _ => some (.write place content)

/-- The entries that are new or have changed. What lies deeper comes last. -/
def additions (before after : FileSystem) : List Change :=
  (after.entries.mergeSort fun a b => a.1.length ≤ b.1.length).filterMap fun (place, entry) =>
    before.addition? place entry

/-- The steps from one file system to another. -/
def changes (before after : FileSystem) : List Change :=
  removals before after ++ additions before after

end FileSystem

end TsWorkshop
