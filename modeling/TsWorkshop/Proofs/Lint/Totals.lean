import TsWorkshop.Proofs.Lint.Run

/-!
Totals of lint reports. Every count in a report that is read is a word of 64 bits
(`counts_of_reportOfText`), but totals are kept in such words too. `ofResults_exact_iff` says which
reports have exact totals, what becomes of the others, and for which reports no errors means that no
file has one.
-/

namespace TsWorkshop

namespace LintResult

theorem countAt_le (value : Json) (name : String) : countAt value name ≤ Word.unsignedMax := by
  unfold countAt
  cases read : (value.field? name).bind (Json.whole? 0 Word.unsignedMax) with
  | none => simp
  | some n =>
    obtain ⟨member, -, whole⟩ := Option.bind_eq_some_iff.mp read
    unfold Json.whole? at whole
    split at whole
    · split at whole
      · cases whole
        rw [Option.getD_some]
        omega
      · cases whole
    · cases whole

/-- The counts of a report that is read are words. -/
theorem counts_of_reportOfText (text : String) (results : List LintResult)
    (read : reportOfText text = .ok results) :
    ∀ r ∈ results, r.warningCount ≤ Word.unsignedMax ∧ r.errorCount ≤ Word.unsignedMax := by
  obtain ⟨report, -, read⟩ := (bind_eq_ok_iff _ _ _).mp read
  cases read
  intro r listed
  obtain ⟨value, -, rfl⟩ := List.mem_map.mp listed
  exact ⟨countAt_le value "warningCount", countAt_le value "errorCount"⟩

end LintResult

namespace LintSummary

theorem ofResults_eq_some_iff (overflow : Word.Overflow) (results : List LintResult) :
    ofResults overflow results = some
        ⟨(results.map LintResult.warningCount).sum, (results.map LintResult.errorCount).sum⟩ ↔
      Fits results := by
  have nonzero : Word.size ≠ 0 := by decide
  rw [ofResults_eq]
  constructor
  · intro same
    split at same
    · rw [Option.some.injEq, mk.injEq] at same
      exact ⟨(Nat.mod_eq_iff_lt nonzero).mp same.1, (Nat.mod_eq_iff_lt nonzero).mp same.2⟩
    · cases same
  · intro fits
    rw [if_pos (Or.inl fits), Nat.mod_eq_of_lt fits.1, Nat.mod_eq_of_lt fits.2]

theorem ofResults_eq_none_iff (overflow : Word.Overflow) (results : List LintResult) :
    ofResults overflow results = none ↔ overflow = .stops ∧ ¬ Fits results := by
  rw [ofResults_eq]
  cases overflow with
  | stops =>
    by_cases fits : Fits results
    · simp [fits]
    · simp [fits]
  | wraps => simp

/-- The count of a single file is its own total. -/
theorem sum_lt_size (results : List LintResult) (count : LintResult → Nat)
    (short : results.length ≤ 1) (words : ∀ r ∈ results, count r ≤ Word.unsignedMax) :
    (results.map count).sum < Word.size := by
  match results with
  | [] => simp [Word.size]
  | [r] =>
    calc
      ([r].map count).sum = count r := by simp
      _ ≤ Word.unsignedMax := words r (by simp)
      _ < Word.size := by decide
  | _ :: _ :: rest => simp at short

/-- The totals of a report that is read are the sums of its counts exactly if both sums are words,
which they are in a report on a single file. If they are not, a program that stops at such sums
comes to no totals, and one that wraps to the sums less whole multiples of 2⁶⁴. So for a program
that stops, totals from which it can be told whether a file has errors come out exactly if both sums
are words, and for one that wraps exactly if the errors add up to 0, or to no multiple of 2⁶⁴. -/
theorem ofResults_exact_iff (text : String) (results : List LintResult)
    (read : LintResult.reportOfText text = .ok results) :
    let warnings := (results.map LintResult.warningCount).sum
    let errors := (results.map LintResult.errorCount).sum
    let tells (overflow : Word.Overflow) := ∃ summary, ofResults overflow results = some summary ∧
      (summary.errors = 0 ↔ ∀ r ∈ results, r.errorCount = 0)
    (∀ overflow, ofResults overflow results = some ⟨warnings, errors⟩ ↔
      warnings < Word.size ∧ errors < Word.size) ∧
      (results.length ≤ 1 → warnings < Word.size ∧ errors < Word.size) ∧
      (ofResults .stops results = none ↔ ¬ (warnings < Word.size ∧ errors < Word.size)) ∧
      ofResults .wraps results = some ⟨warnings % Word.size, errors % Word.size⟩ ∧
      (tells .stops ↔ warnings < Word.size ∧ errors < Word.size) ∧
      (tells .wraps ↔ errors = 0 ∨ ¬ Word.size ∣ errors) := by
  intro warnings errors tells
  have counts := LintResult.counts_of_reportOfText text results read
  have single (short : results.length ≤ 1) : warnings < Word.size ∧ errors < Word.size :=
    ⟨sum_lt_size results _ short fun r listed => (counts r listed).1,
      sum_lt_size results _ short fun r listed => (counts r listed).2⟩
  have none : (∀ r ∈ results, r.errorCount = 0) ↔ errors = 0 := by
    simp only [errors, List.sum_eq_zero_iff_forall_eq_nat, List.forall_mem_map]
  have wraps : ofResults .wraps results = some ⟨warnings % Word.size, errors % Word.size⟩ := by
    rw [ofResults_eq, if_pos (Or.inr rfl)]
  have stops : ofResults .stops results = .none ↔ ¬ Fits results := by
    rw [ofResults_eq_none_iff, and_iff_right rfl]
  refine ⟨fun overflow => ofResults_eq_some_iff overflow results, single, stops, wraps, ?_, ?_⟩
  · constructor
    · rintro ⟨summary, counted, -⟩
      by_contra overfull
      rw [stops.mpr overfull] at counted
      cases counted
    · intro fits
      exact ⟨_, (ofResults_eq_some_iff .stops results).mpr fits, none.symm⟩
  · have counted : tells .wraps ↔ (errors % Word.size = 0 ↔ errors = 0) := by
      simp only [tells, wraps, Option.some.injEq, exists_eq_left', none]
    rw [counted, ← Nat.dvd_iff_mod_eq_zero]
    constructor
    · intro faithful
      by_cases multiple : Word.size ∣ errors
      · exact Or.inl (faithful.mp multiple)
      · exact Or.inr multiple
    · rintro (zero | other)
      · simp [zero]
      · have some : errors ≠ 0 := fun zero => other (zero ▸ Nat.dvd_zero _)
        simp [other, some]

/-- Two files that state more errors than a word holds, one of them warnings as well. -/
def overfullReport : String :=
  "[\x7b\"filePath\":\"a.ts\",\"errorCount\":18446744073709551615,\"warningCount\":3\x7d," ++
    "\x7b\"filePath\":\"b.ts\",\"errorCount\":2\x7d]"

def overfullResults : List LintResult :=
  [{ filePath := "a.ts", messages := [], errorCount := 18446744073709551615, warningCount := 3
     output := none, source := none },
   { filePath := "b.ts", messages := [], errorCount := 2, warningCount := 0
     output := none, source := none }]

/-- Of 2⁶⁴ + 1 errors a program that wraps counts one, so the total is wrong but the report is not
taken for a clean one; a program that stops comes to no totals. -/
theorem ofResults_exact_iff_overfull :
    LintResult.reportOfText overfullReport = .ok overfullResults ∧
      ofResults .stops overfullResults = none ∧
      ofResults .wraps overfullResults ≠ some
        ⟨(overfullResults.map LintResult.warningCount).sum,
          (overfullResults.map LintResult.errorCount).sum⟩ ∧
      ∃ summary, ofResults .wraps overfullResults = some summary ∧
        (summary.errors = 0 ↔ ∀ r ∈ overfullResults, r.errorCount = 0) := by
  have read : LintResult.reportOfText overfullReport = .ok overfullResults := by decide +kernel
  obtain ⟨exact, -, stops, -, -, tells⟩ := ofResults_exact_iff overfullReport overfullResults read
  refine ⟨read, stops.mpr (by decide +kernel), ?_, tells.mpr (Or.inr (by decide +kernel))⟩
  rw [ne_eq, exact]
  decide +kernel

/-- Two files whose errors add up to 2⁶⁴. -/
def wrappingReport : String :=
  "[\x7b\"filePath\":\"a.ts\",\"errorCount\":18446744073709551615\x7d," ++
    "\x7b\"filePath\":\"b.ts\",\"errorCount\":1\x7d]"

/-- In a report whose files both state errors a program that wraps counts none. A program that stops
comes to no totals. -/
theorem ofResults_loses_errors :
    (LintResult.reportOfText wrappingReport).toOption.map (fun results =>
      (results.map LintResult.errorCount, (results.map LintResult.errorCount).sum,
        ofResults .wraps results, ofResults .stops results)) =
      some ([18446744073709551615, 1], 18446744073709551616, some ⟨0, 0⟩, none) := by
  decide +kernel

end LintSummary

end TsWorkshop
