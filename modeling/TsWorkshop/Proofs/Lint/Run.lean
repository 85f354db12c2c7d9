import Mathlib.Algebra.Ring.Nat
import TsWorkshop.CommandLine.Run
import TsWorkshop.Proofs.Tool.Run

/-!
The verdict on a lint report. It is taken from the counts that the report states for its files, and
not from the messages. The totals of these counts are their sums as long as they are words of 64
bits; with a sum that is none the program stops, or goes on with what is left of it
(`LintSummary.ofResults_eq`). `execute_follows_messages_iff` says for which reports all that makes
no difference.
-/

namespace TsWorkshop

/-! ### Totals -/

namespace LintSummary

variable (overflow : Word.Overflow) (results : List LintResult)

/-- A report whose totals are words. -/
def Fits : Prop :=
  (results.map LintResult.warningCount).sum < Word.size ∧
    (results.map LintResult.errorCount).sum < Word.size

instance : Decidable (Fits results) := inferInstanceAs (Decidable (_ ∧ _))

theorem addCounts_stops (total : LintSummary) (r : LintResult) :
    addCounts .stops total r =
      if total.warnings + r.warningCount < Word.size ∧ total.errors + r.errorCount < Word.size then
        some ⟨total.warnings + r.warningCount, total.errors + r.errorCount⟩
      else none := by
  rw [addCounts, Word.add?_stops, Word.add?_stops]
  by_cases warnings : total.warnings + r.warningCount < Word.size
  · by_cases errors : total.errors + r.errorCount < Word.size
    · simp [warnings, errors]
    · simp [warnings, errors]
  · simp [warnings]

theorem addCounts_wraps (total : LintSummary) (r : LintResult) :
    addCounts .wraps total r =
      some ⟨(total.warnings + r.warningCount) % Word.size,
        (total.errors + r.errorCount) % Word.size⟩ := by
  rw [addCounts, Word.add?_wraps, Word.add?_wraps]
  rfl

/-- A program that stops at sums that are no words comes to the end exactly if the totals are words,
since no sum on the way is larger than they are. -/
theorem foldlM_addCounts_stops (warnings errors : Nat) (w : warnings < Word.size)
    (e : errors < Word.size) :
    results.foldlM (addCounts .stops) (⟨warnings, errors⟩ : LintSummary) =
      if warnings + (results.map LintResult.warningCount).sum < Word.size ∧
          errors + (results.map LintResult.errorCount).sum < Word.size then
        some ⟨warnings + (results.map LintResult.warningCount).sum,
          errors + (results.map LintResult.errorCount).sum⟩
      else none := by
  induction results generalizing warnings errors with
  | nil =>
    rw [if_pos ⟨w, e⟩]
    rfl
  | cons r rest ih =>
    rw [List.foldlM_cons, addCounts_stops]
    simp only [List.map_cons, List.sum_cons, ← Nat.add_assoc]
    split
    · rename_i fits
      exact ih _ _ fits.1 fits.2
    · rename_i overfull
      rw [if_neg]
      · rfl
      · rintro ⟨_, _⟩
        apply overfull
        constructor <;> omega

/-- A program that wraps goes on with the totals less whole multiples of 2⁶⁴. -/
theorem foldlM_addCounts_wraps (warnings errors : Nat) :
    results.foldlM (addCounts .wraps)
        (⟨warnings % Word.size, errors % Word.size⟩ : LintSummary) =
      some ⟨(warnings + (results.map LintResult.warningCount).sum) % Word.size,
        (errors + (results.map LintResult.errorCount).sum) % Word.size⟩ := by
  induction results generalizing warnings errors with
  | nil => rfl
  | cons r rest ih =>
    rw [List.foldlM_cons, addCounts_wraps]
    simp only [List.map_cons, List.sum_cons, ← Nat.add_assoc, Nat.mod_add_mod]
    exact ih _ _

/-- The totals of a report are the sums of the stated counts if these are words. If not, the program
stops or drops whole multiples of 2⁶⁴. -/
theorem ofResults_eq :
    ofResults overflow results =
      if Fits results ∨ overflow = .wraps then
        some ⟨(results.map LintResult.warningCount).sum % Word.size,
          (results.map LintResult.errorCount).sum % Word.size⟩
      else none := by
  cases overflow with
  | stops =>
    have sums := foldlM_addCounts_stops results 0 0 (by decide) (by decide)
    simp only [Nat.zero_add] at sums
    refine sums.trans ?_
    by_cases fits : Fits results
    · rw [if_pos (Or.inl fits), Nat.mod_eq_of_lt fits.1, Nat.mod_eq_of_lt fits.2]
      exact if_pos fits
    · rw [if_neg (not_or.mpr ⟨fits, by decide⟩)]
      exact if_neg fits
  | wraps =>
    have sums := foldlM_addCounts_wraps results 0 0
    simp only [Nat.zero_add, Nat.zero_mod] at sums
    rw [ofResults, sums, if_pos (Or.inr rfl)]

end LintSummary

namespace Lint

variable {host : Host}

/-! ### A lint run -/

theorem readsFiles_run (root : Path) (fix : Bool) (extensions files : List String) :
    Action.ReadsFiles host (Lint.run root fix extensions files) :=
  (Tool.readsFiles_resolve root "eslint").bind fun linter =>
    (Tool.readsFiles_output root linter _).bind fun _ => Action.readsFiles_ofExcept _

/-- A run is judged by what the linter leaves behind. -/
theorem onFiles_run (root : Path) (fix : Bool) (extensions files : List String)
    (linter : Invocation) (output : Output) (before after : FileSystem)
    (resolved : (Tool.resolve root "eslint").onFiles host before = (.ok linter, before))
    (launched : host.launch (Tool.command host root linter (lintArgs fix extensions files)) before =
      (.ok output, after)) :
    (Lint.run root fix extensions files).onFiles host before =
      (outcome linter (lintArgs fix extensions files) output, after) := by
  have printed := Tool.onFiles_output root linter _ before after output launched
  unfold Lint.run Action.onFiles
  obtain ⟨first, rfl, goes⟩ := (Tool.readsFiles_resolve root "eslint").run_bind_ok _
    { files := before } linter before resolved
  obtain ⟨second, rfl, goes'⟩ := (Tool.readsFiles_output root linter _).run_bind_ok _
    first output after printed
  rw [goes, goes', Action.run_ofExcept]

/-- A report that is read is the outcome of a run that ended with code 0 or 1. -/
theorem outcome_eq_ok (linter : Invocation) (args : List String) (output : Output)
    (results : List LintResult)
    (code : output.status = .exited 0 ∨ output.status = .exited 1)
    (read : LintResult.reportOfText output.stdoutText = .ok results) :
    outcome linter args output = .ok results := by
  have accepted : output.status.code? = some 0 ∨ output.status.code? = some 1 := by
    rcases code with code | code <;> simp [code, ExitStatus.code?]
  unfold outcome
  rw [if_pos accepted, read]
  rfl

/-! ### The verdict -/

/-- The verdict on the totals of a report, if there are any. -/
def judged : Option LintSummary → Except Halt Unit
  | some summary =>
    if 0 < summary.errors then .error (.failure (.lintFailed summary.errors)) else .ok ()
  | none => .error .overflow

theorem run_totals (host : Host) (results : List LintResult) (progress : Progress) :
    (totals results).run host progress =
      (match LintSummary.ofResults host.overflow results with
        | some summary => .ok summary
        | none => .error .overflow, progress) := by
  unfold totals
  rw [Action.run_bind_ok _ _ host progress progress host.overflow rfl]
  cases LintSummary.ofResults host.overflow results <;> rfl

/-- A report that is read is shown, and judged by its totals. -/
theorem run_execute (args : LintArgs) (project : Project) (progress : Progress)
    (results : List LintResult) (after : FileSystem)
    (reported : (Lint.run project.root project.config.eslint.fix project.config.eslint.extensions
      args.files).onFiles host progress.files = (.ok results, after)) :
    ((execute args project).run host progress).1 =
      judged (LintSummary.ofResults host.overflow results) := by
  let start := startReport args.files project.config.eslint.fix
  let started : Progress := { progress with events := progress.events ++ [start] }
  have starts : (Action.report start : Action Halt Unit).run host progress = (.ok (), started) :=
    rfl
  unfold execute
  dsimp only
  rw [Action.run_bind_ok _ _ host progress started () starts]
  obtain ⟨linted, -, goes⟩ := ((readsFiles_run _ _ _ _).mapError
    fun e => Halt.failure (.tool e)).run_bind_ok _
    started results after (Action.onFiles_mapError_ok _ _ _ _ _ reported)
  rw [goes]
  have sums := run_totals host results linted
  cases summed : LintSummary.ofResults host.overflow results with
  | none =>
    rw [summed] at sums
    rw [Action.run_bind_error _ _ host linted linted _ sums]
    rfl
  | some summary =>
    rw [summed] at sums
    rw [Action.run_bind_ok _ _ host linted linted summary sums,
      Action.run_bind_ok _ _ host linted linted host.colors rfl]
    obtain ⟨noted, -, status⟩ := Terminal.run_status Halt host _ _ linted
    rw [Action.run_bind_ok _ _ host linted noted () status]
    obtain ⟨listed, -, blocks⟩ := Terminal.run_blocks Halt host _ noted
    rw [Action.run_bind_ok _ _ host noted listed () blocks]
    unfold judged
    dsimp only
    split <;> rfl

/-- A report that is read from a run with code 0 or 1 is judged by the total of the errors that its
files state, unless the program stops because the totals are no words. The verdict follows the
messages, failing exactly if some message is an error and with the number of those messages, for
exactly those reports for which the number that it is taken from is this number; a program that
stops comes to no verdict, and so to no number but 0. -/
theorem execute_follows_messages_iff (args : LintArgs) (project : Project) (progress : Progress)
    (linter : Invocation) (output : Output) (after : FileSystem) (results : List LintResult)
    (resolved : (Tool.resolve project.root "eslint").onFiles host progress.files =
      (.ok linter, progress.files))
    (launched : host.launch (Tool.command host project.root linter (lintArgs
      project.config.eslint.fix project.config.eslint.extensions args.files)) progress.files =
        (.ok output, after))
    (code : output.status = .exited 0 ∨ output.status = .exited 1)
    (read : LintResult.reportOfText output.stdoutText = .ok results) :
    let goesOn := LintSummary.Fits results ∨ host.overflow = .wraps
    let stated := (results.map LintResult.errorCount).sum % Word.size
    let errors := (results.flatMap LintResult.messages).countP LintMessage.isError
    let result := ((execute args project).run host progress).1
    result = (if goesOn then
        if 0 < stated then .error (.failure (.lintFailed stated)) else .ok ()
      else .error .overflow) ∧
    ((((∃ n, result = .error (.failure (.lintFailed n))) ↔
          ∃ r ∈ results, ∃ m ∈ r.messages, m.isError = true) ∧
        ∀ n, result = .error (.failure (.lintFailed n)) → n = errors) ↔
      (if goesOn then stated else 0) = errors) := by
  intro goesOn stated errors result
  have reported := onFiles_run project.root project.config.eslint.fix
    project.config.eslint.extensions args.files linter output progress.files after resolved launched
  rw [outcome_eq_ok linter _ output results code read] at reported
  have verdict : result = if goesOn then
      if 0 < stated then .error (.failure (.lintFailed stated)) else .ok ()
    else .error .overflow := by
    have judgement := run_execute args project progress results after reported
    rw [LintSummary.ofResults_eq] at judgement
    refine judgement.trans ?_
    by_cases on : goesOn
    · rw [if_pos on, if_pos on]
      rfl
    · rw [if_neg on, if_neg on]
      rfl
  let counted := if goesOn then stated else 0
  have fails (n : Nat) :
      result = .error (.failure (.lintFailed n)) ↔ 0 < counted ∧ n = counted := by
    rw [verdict]
    by_cases on : goesOn
    · by_cases some : 0 < stated
      · simp [counted, on, some, eq_comm]
      · simp [counted, on, some]
    · simp [counted, on]
  have found : (∃ r ∈ results, ∃ m ∈ r.messages, m.isError = true) ↔ 0 < errors := by
    simp only [errors, List.countP_pos_iff, List.mem_flatMap]
    constructor
    · rintro ⟨r, listed, m, inside, error⟩
      exact ⟨m, ⟨r, listed, inside⟩, error⟩
    · rintro ⟨m, ⟨r, listed, inside⟩, error⟩
      exact ⟨r, listed, m, inside, error⟩
  have failed : (∃ n, result = .error (.failure (.lintFailed n))) ↔ 0 < counted := by
    constructor
    · rintro ⟨n, h⟩
      exact ((fails n).mp h).1
    · exact fun some => ⟨counted, (fails counted).mpr ⟨some, rfl⟩⟩
  refine ⟨verdict, ?_⟩
  rw [failed, found]
  constructor
  · rintro ⟨same, number⟩
    by_cases some : 0 < counted
    · exact number counted ((fails counted).mpr ⟨some, rfl⟩)
    · change counted = errors
      omega
  · intro (same : counted = errors)
    refine ⟨by rw [same], fun n h => ?_⟩
    rw [((fails n).mp h).2, same]

/-- A project in `/work` with a local linter. -/
def checked : Project :=
  { root := "/work", config := { name := "demo" }, configFile := none }

def checkedFiles : FileSystem :=
  { entries :=
      [(["work"], .directory), (["work", "node_modules"], .directory),
       (["work", "node_modules", ".bin"], .directory),
       (["work", "node_modules", ".bin", "eslint"], .file "eslint".toUTF8 true)] }

/-- A host whose linter prints a report and ends with code 1. -/
def reporting (report : String) : Host :=
  { cwd := "/work"
    launch := fun _ files =>
      (.ok { status := .exited 1, stdout := report.toUTF8, stderr := .empty }, files)
    now := ⟨0, 0⟩ }

/-- A file with an error, a fatal message and a warning, which states two errors. -/
def truthfulReport : String :=
  "[\x7b\"filePath\":\"a.ts\",\"errorCount\":2,\"messages\":[" ++
    "\x7b\"message\":\"m\",\"severity\":2\x7d,\x7b\"message\":\"m\",\"fatal\":true\x7d," ++
    "\x7b\"message\":\"m\",\"severity\":1\x7d]\x7d]"

def truthfulResults : List LintResult :=
  [{ filePath := "a.ts"
     messages :=
       [⟨none, 2, "m", 0, 0, false⟩, ⟨none, 0, "m", 0, 0, true⟩, ⟨none, 1, "m", 0, 0, false⟩]
     errorCount := 2, warningCount := 0, output := none, source := none }]

/-- Two errors and a warning refuse a run with their number if the report states it. -/
theorem execute_follows_messages_iff_truthful :
    let output : Output :=
      { status := .exited 1, stdout := truthfulReport.toUTF8, stderr := .empty }
    LintResult.reportOfText output.stdoutText = .ok truthfulResults ∧
      (truthfulResults.flatMap LintResult.messages).countP LintMessage.isError = 2 ∧
      ((execute ⟨[], false, false⟩ checked).run (reporting truthfulReport)
        { files := checkedFiles }).1 = .error (.failure (.lintFailed 2)) := by
  intro output
  have read : LintResult.reportOfText output.stdoutText = .ok truthfulResults := by
    decide +kernel
  have resolved : ((Tool.resolve checked.root "eslint").onFiles (reporting truthfulReport)
      checkedFiles).1 = .ok (.direct "/work/node_modules/.bin/eslint" "eslint") := by
    decide +kernel
  have errors : (truthfulResults.flatMap LintResult.messages).countP LintMessage.isError = 2 := by
    decide
  have same : (if LintSummary.Fits truthfulResults ∨
        (reporting truthfulReport).overflow = .wraps then
        (truthfulResults.map LintResult.errorCount).sum % Word.size else 0) =
      (truthfulResults.flatMap LintResult.messages).countP LintMessage.isError := by
    decide +kernel
  obtain ⟨-, follows⟩ := execute_follows_messages_iff ⟨[], false, false⟩ checked
    { files := checkedFiles } (.direct "/work/node_modules/.bin/eslint" "eslint") output
    checkedFiles truthfulResults
    (Prod.ext resolved (Tool.keepsFiles_resolve _ _ { files := checkedFiles }))
    rfl (Or.inr rfl) read
  obtain ⟨fails, counted⟩ := follows.mpr same
  obtain ⟨n, failed⟩ := fails.mpr (by decide)
  have number : n = 2 := (counted n failed).trans errors
  rw [number] at failed
  exact ⟨read, errors, failed⟩

/-- A message that is an error, in a file that states no number of errors. -/
def silentReport : String :=
  "[\x7b\"filePath\":\"a.ts\",\"messages\":[" ++
    "\x7b\"message\":\"m\",\"severity\":2\x7d]\x7d]"

/-- A report that states no number of errors passes whatever its messages are. -/
theorem execute_passes_errors :
    (LintResult.reportOfText silentReport).toOption.map
      (fun results => (results.flatMap LintResult.messages).countP LintMessage.isError) = some 1 ∧
    ((execute ⟨[], false, false⟩ checked).run (reporting silentReport)
      { files := checkedFiles }).1 = .ok () := by
  constructor <;> decide +kernel

end Lint

end TsWorkshop
