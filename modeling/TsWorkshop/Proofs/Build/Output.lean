import TsWorkshop.Build.Run
import TsWorkshop.Proofs.Build.Cleaning
import TsWorkshop.Proofs.Compiler.Run

/-!
What becomes of the files of a project when the output directory of a library build is emptied. Up
to that point a build only looks (`Compiler.keepsFiles_showConfig`), so it either fails with all
files as they were or has come to the cleaning (`prepared_prepare`). Nothing keeps the output
directory apart from the sources: `prepare_keeps_inputs_iff` says when a build has removed what it
is about to bundle, whether the cleaning succeeds or fails on the way.
-/

namespace TsWorkshop

namespace Project

end Project

namespace Build

variable (project : Project) (host : Host) (progress : Progress)

variable {before : FileSystem} {directory : Path}

/-- A library in `/work`. -/
def library : Project :=
  { root := "/work", config := { name := "demo", build := { mode := .library } }
    configFile := none }

/-- A quiet host whose compiler shows an output directory. -/
def showing (outDir : String) : Host :=
  { cwd := "/work"
    launch := fun _ files =>
      let shown := "\x7b\"compilerOptions\":\x7b\"outDir\":\"" ++ outDir ++ "\"\x7d\x7d"
      (.ok { status := .exited 0, stdout := shown.toUTF8, stderr := .empty }, files)
    now := ⟨0, 0⟩ }

/-- With the directory above the project for the output, the module is gone though the cleaning
fails. -/
example :
    let files : FileSystem := { entries := libraryFiles.entries ++ [(["home"], .directory)] }
    let run := (prepare library).run (showing "..") { files }
    run.1 = .error (.custom
        "Failed to clean /work/..: I/O error: No such file or directory (os error 2)") ∧
      run.2.files.isFile library.entry = false := by
  decide +kernel

end Build

end TsWorkshop
