import TsWorkshop.Action
import TsWorkshop.Docs.Document

/-!
Writing documentation: a reflection is taken from its source, documented, and written to a file in
the place of what was there. Nothing is written unless the reflection could be had.
-/

namespace TsWorkshop

/-- What is asked of a documentation run. -/
structure DocsRequest where
  /-- The file to write. -/
  output : Path := "docs/docs.json"
  /-- Several packages are to be documented, which is refused. -/
  workspaces : Bool := false
  deriving DecidableEq, Repr

namespace Document

def target : String := "tanuki::docs"

/-- The directory of a file, unless it is the working directory. -/
def directory? (path : Path) : Option Path := path.parent?.filter (· ≠ "")

/-- Writes a document and the missing directories above it. -/
def write (document : Document) (path : Path) : Action DocsError Unit := do
  match directory? path with
  | some directory =>
    (Action.alter fun fs => fs.provideDirectory directory).mapError (.io directory)
  | none => pure ()
  (Action.change fun fs => fs.write path document.text.toUTF8).mapError (.io path)

/-- The report that a run has begun. -/
def startReport : Event :=
  { level := .info, target, message := "Now serializing project for documentation" }

/-- The report about a document without any block. -/
def isEmptyReport : Event :=
  { level := .warn, target
    message := "No root elements were specified. Emitting empty documentation output" }

/-- The report of a document that was written. -/
def writtenReport (path : Path) (document : Document) : Event :=
  { level := .info, target, message := "Generated documentation"
    fields := [("path", path), ("declarations", toString document.children.length)] }

/-- Documents the reflection of a source, and gives the path of the file that was written. -/
def generate (request : DocsRequest) (registry : Registry)
    (source : Action DocsError Declaration) : Action DocsError Path := do
  if request.workspaces then
    Action.report
      { level := .error, target, message := "Workspaces are not supported at this given moment" }
    Action.fail .workspacesUnsupported
  else
    Action.report startReport
    let project ← source
    let now ← Action.asks Host.now
    let document := assemble project registry now
    Action.reportAll (warnings project registry)
    if document.children.isEmpty then Action.report isEmptyReport
    document.write request.output
    Action.report (writtenReport request.output document)
    return request.output

end Document

end TsWorkshop
