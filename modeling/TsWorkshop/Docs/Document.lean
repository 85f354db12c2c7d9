import TsWorkshop.Docs.Timestamp
import TsWorkshop.Docs.Walk

/-!
The documentation file of a project: a format version, the time of its making, and the blocks of the
project's members.
-/

namespace TsWorkshop

/-- The version of the layout of the documentation file. -/
def formatVersion : Nat := 1

/-- A documentation file. -/
structure Document where
  generatedAt : Timestamp
  children : List Block

namespace Document

/-- The documentation of a project. -/
def assemble (project : Declaration) (r : Registry) (generatedAt : Timestamp) : Document :=
  { generatedAt, children := blocksOf r project.members }

/-- The events reported while a project is documented. -/
def warnings (project : Declaration) (r : Registry) : List Event := warningsOf r project.members

def toJson (d : Document) : Json :=
  .obj [("format_version", .ofInt formatVersion), ("generated_at", .str d.generatedAt.text),
    ("workspaces", .bool false), ("children", .arr (blocksToJson d.children))]

/-- The text of the file. -/
def text (d : Document) : String := d.toJson.pretty

end Document

end TsWorkshop
