import TsWorkshop.Proofs.Action
import TsWorkshop.Tool.Run

/-!
Running tools. Finding a tool leaves the files alone; a tool that runs leaves behind what its
program leaves behind.
-/

namespace TsWorkshop

variable {host : Host}

namespace Tool

theorem keepsFiles_resolve (root : Path) (name : String) :
    Action.KeepsFiles host (Tool.resolve root name) := by
  refine Action.keepsFiles_files.bind fun fs => ?_
  split
  · exact (Action.keepsFiles_report _).bind fun _ => Action.keepsFiles_pure _
  · refine (Action.keepsFiles_asks _).bind fun runner => ?_
    split
    · exact (Action.keepsFiles_report _).bind fun _ => Action.keepsFiles_pure _
    · exact Action.keepsFiles_fail _

theorem readsFiles_resolve (root : Path) (name : String) :
    Action.ReadsFiles host (Tool.resolve root name) := by
  refine Action.readsFiles_files.bind fun fs => ?_
  split
  · exact (Action.readsFiles_report _).bind fun _ => Action.readsFiles_pure _
  · refine (Action.readsFiles_asks _).bind fun runner => ?_
    split
    · exact (Action.readsFiles_report _).bind fun _ => Action.readsFiles_pure _
    · exact Action.readsFiles_fail _

/-- The program that a tool is, as it is started with arguments. -/
def command (host : Host) (root : Path) (tool : Invocation) (args : List String) : Launch :=
  { program := tool.program, args := tool.leading ++ args, cwd := root
    environment := host.environment }

theorem readsFiles_output (root : Path) (tool : Invocation) (args : List String) :
    Action.ReadsFiles host (Tool.output root tool args) :=
  (Action.readsFiles_report _).bind fun _ => (Action.readsFiles_asks _).bind fun _ =>
    (Action.readsFiles_launch _).mapError _

/-- What a tool leaves behind is what its program leaves behind. -/
theorem onFiles_output (root : Path) (tool : Invocation) (args : List String)
    (files after : FileSystem) (output : Output)
    (launched : host.launch (command host root tool args) files = (.ok output, after)) :
    (Tool.output root tool args).onFiles host files = (.ok output, after) := by
  rw [command] at launched
  unfold Tool.output Action.onFiles
  simp only [Action.run_bind, Action.run_report, Action.run_asks, Action.run_mapError,
    Action.run_launch, launched]
  rfl

theorem readsFiles_exec (root : Path) (tool : Invocation) (args : List String) :
    Action.ReadsFiles host (Tool.exec root tool args) := by
  refine (readsFiles_output root tool args).bind fun output => ?_
  split
  · exact Action.readsFiles_pure _
  · exact Action.readsFiles_fail _

/-- A tool leaves the files alone if its program does. -/
theorem keepsFiles_output (root : Path) (tool : Invocation) (args : List String)
    (still : ∀ files, (host.launch (command host root tool args) files).2 = files) :
    Action.KeepsFiles host (Tool.output root tool args) := by
  intro progress
  unfold Tool.output
  simp only [Action.run_bind, Action.run_report, Action.run_asks, Action.run_mapError,
    Action.run_launch]
  exact still progress.files

theorem keepsFiles_exec (root : Path) (tool : Invocation) (args : List String)
    (still : ∀ files, (host.launch (command host root tool args) files).2 = files) :
    Action.KeepsFiles host (Tool.exec root tool args) := by
  refine (keepsFiles_output root tool args still).bind fun output => ?_
  split
  · exact Action.keepsFiles_pure _
  · exact Action.keepsFiles_fail _

end Tool

end TsWorkshop
