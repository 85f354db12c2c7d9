import TsWorkshop.FileSystem.Path
import TsWorkshop.Json.Shape

/-!
The part of a resolved compiler configuration that a build needs: where output goes, and whether
there is any.
-/

namespace TsWorkshop

/-- The options of a configuration file. -/
structure CompilerOptions where
  path : Path
  /-- The output directory, relative to the directory of the configuration file. -/
  outDir : Option Path
  noEmit : Bool
  deriving DecidableEq, Repr

namespace CompilerOptions

/-- The records of a shown configuration. -/
inductive RecordName where
  | shown | options

def grammar : Grammar RecordName
  | .shown =>
    { title := "struct ShowConfig"
      fields := [{ name := "compilerOptions", shape := .record .options, optional := true }] }
  | .options =>
    { title := "struct CompilerOptions"
      fields :=
        [{ name := "outDir", shape := .text "path string", nullable := true, optional := true,
           optionalItem := false },
         { name := "noEmit", shape := .flag, optional := true }] }

/-- The options in a configuration that the compiler has printed. -/
def ofText (path : Path) (text : String) : Except Complaint CompilerOptions := do
  let shown ← (Shape.record RecordName.shown).ofText grammar text
  let options := (shown.field? "compilerOptions").getD (.obj [])
  return { path
           outDir := (options.field? "outDir").bind Json.text?
           noEmit := ((options.field? "noEmit").bind Json.flag?).getD false }

/-- The directory that output goes to when the configuration names none. -/
def defaultOutDir : Path := "build"

/-- The directory that output goes to. -/
def buildDir (options : CompilerOptions) (root : Path) : Path :=
  match options.outDir with
  | some outDir =>
    if outDir.isAbsolute then outDir else (options.path.parent?.getD root).join outDir
  | none => root.join defaultOutDir

end CompilerOptions

end TsWorkshop
