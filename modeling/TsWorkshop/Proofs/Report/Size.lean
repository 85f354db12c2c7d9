import Mathlib.Data.Rat.Floor
import Mathlib.Tactic.Linarith
import TsWorkshop.Proofs.Report.Measure

/-!
Sizes and their units. A size that is shown is read back as a number and a unit (`shown?`). The
number is as near to the bytes as two decimals allow, but it is rounded after its unit was chosen,
so just below the next unit it is written as 1024 (`size_fits_unit_iff`).
-/

namespace TsWorkshop

/-- The number that a literal stands for. -/
def DecimalLiteral.rational (x : DecimalLiteral) : ℚ :=
  (if x.negative then -1 else 1) * x.digits * 10 ^ x.exponent

theorem DecimalLiteral.rational_whole (n : Nat) : rational ⟨false, n, 0⟩ = n := by
  simp [rational]

theorem DecimalLiteral.rational_hundredths (n : Nat) : rational ⟨false, n, -2⟩ = n / 100 := by
  simp only [rational, Bool.false_eq_true, if_false, one_mul]
  norm_num [div_eq_mul_inv]

namespace Measure

/-- How many bytes the units are. -/
def unitSizes : Assoc Nat := [("B", 1), ("KB", 1024), ("MB", 1024 ^ 2), ("GB", 1024 ^ 3)]

/-- The number and the unit that a text shows. -/
def shown? (text : String) : Option (DecimalLiteral × String) :=
  match Text.split ' ' text with
  | [numeral, unit] => (DecimalLiteral.ofChars? numeral.toList).map fun number => (number, unit)
  | _ => none

/-! ### Choosing the unit -/

theorem inUnit_mul_right (num den c : Nat) (positive : 0 < c) (unit : String)
    (units : List String) :
    inUnit (num * c) (den * c) unit units =
      ((inUnit num den unit units).1 * c, (inUnit num den unit units).2.1 * c,
        (inUnit num den unit units).2.2) := by
  induction units generalizing den unit with
  | nil => rfl
  | cons next rest ih =>
    have fills : 1024 * (den * c) ≤ num * c ↔ 1024 * den ≤ num := by
      rw [← Nat.mul_assoc, Nat.mul_le_mul_right_iff positive]
    unfold inUnit
    by_cases filled : 1024 * den ≤ num
    · rw [if_pos filled, if_pos (fills.mpr filled), ← Nat.mul_assoc]
      exact ih (1024 * den) next
    · rw [if_neg filled, if_neg fun h => filled (fills.mp h)]

/-- The largest unit that the bytes fill. -/
inductive Fills (bytes : Nat) : Nat → String → Prop
  | bytes (below : bytes < 1024) : Fills bytes 1 "B"
  | kilobytes (filled : 1024 ≤ bytes) (below : bytes < 1024 ^ 2) : Fills bytes 1024 "KB"
  | megabytes (filled : 1024 ^ 2 ≤ bytes) (below : bytes < 1024 ^ 3) : Fills bytes (1024 ^ 2) "MB"
  | gigabytes (filled : 1024 ^ 3 ≤ bytes) : Fills bytes (1024 ^ 3) "GB"

theorem exists_fills (bytes : Nat) :
    ∃ scale unit, inUnit bytes 1 "B" largerUnits = (bytes, scale, unit) ∧
      Fills bytes scale unit := by
  by_cases kilo : 1024 ≤ bytes
  · by_cases mega : 1024 ^ 2 ≤ bytes
    · by_cases giga : 1024 ^ 3 ≤ bytes
      · exact ⟨1024 ^ 3, "GB", by simp_all [inUnit, largerUnits], .gigabytes giga⟩
      · exact ⟨1024 ^ 2, "MB", by simp_all [inUnit, largerUnits], .megabytes mega (by omega)⟩
    · exact ⟨1024, "KB", by simp_all [inUnit, largerUnits], .kilobytes kilo (by omega)⟩
  · exact ⟨1, "B", by simp_all [inUnit, largerUnits], .bytes (by omega)⟩

/-- Below 2⁵³ bytes a size is the exact number in its unit with two decimals. -/
theorem exists_size_eq (bytes : Nat) (exact : bytes < 2 ^ 53) :
    ∃ scale unit, Fills bytes scale unit ∧
      size bytes =
        (if unit = "B" then toString bytes else twoDecimals bytes scale) ++ " " ++ unit := by
  obtain ⟨den, positive, whole⟩ := exists_nearest_one bytes exact
  obtain ⟨scale, unit, chosen, fills⟩ := exists_fills bytes
  refine ⟨scale, unit, fills, ?_⟩
  have scaled := inUnit_mul_right bytes 1 den positive "B" largerUnits
  rw [Nat.one_mul, chosen] at scaled
  unfold size
  rw [whole]
  dsimp only
  rw [scaled]
  dsimp only
  rw [twoDecimals_mul_right _ _ _ positive]
  split
  · rename_i single
    rw [single, String.append_assoc]
    rfl
  · rfl

/-! ### Reading the text -/

theorem shown?_append (numeral unit : String) (number : DecimalLiteral)
    (read : DecimalLiteral.ofChars? numeral.toList = some number)
    (plain : ' ' ∉ numeral.toList) (plain' : ' ' ∉ unit.toList) :
    shown? (numeral ++ " " ++ unit) = some (number, unit) := by
  have pieces : Text.split ' ' (numeral ++ " " ++ unit) = [numeral, unit] :=
    Text.split_join ' ' [numeral, unit] (by simp) (by simp [plain, plain'])
  unfold shown?
  rw [pieces]
  dsimp only
  rw [read, Option.map_some]

theorem Fills.get?_unitSizes {bytes scale : Nat} {unit : String} (fills : Fills bytes scale unit) :
    unitSizes.get? unit = some scale := by
  cases fills <;> decide

/-- A number with two decimals of a unit that the bytes fill. It is rounded up to 1024 from half a
hundredth of the unit below. -/
theorem exists_shown_hundredths (bytes scale : Nat) (unit : String) (positive : 0 < scale)
    (filled : scale ≤ bytes) (plain : ' ' ∉ unit.toList) :
    ∃ number, shown? (twoDecimals bytes scale ++ " " ++ unit) = some (number, unit) ∧
      |number.rational * scale - bytes| ≤ scale / 200 ∧ 1 ≤ number.rational ∧
      (number.rational < 1024 ↔ 200 * bytes < 204799 * scale) := by
  have read := ofChars?_twoDecimals bytes scale
  obtain ⟨upper, lower⟩ := Binary64.roundDiv_near (100 * bytes) scale positive
  have least := Binary64.le_roundDiv 100 (100 * bytes) scale positive
    (Nat.mul_le_mul_left 100 filled)
  have most := Binary64.le_roundDiv_iff 102400 (100 * bytes) scale positive (by decide)
  generalize Binary64.roundDiv (100 * bytes) scale = h at read upper lower least most
  refine ⟨⟨false, h, -2⟩,
    shown?_append _ unit _ read (space_not_mem_twoDecimals bytes scale) plain, ?_⟩
  rw [DecimalLiteral.rational_hundredths]
  refine ⟨?_, ?_, ?_⟩
  · have upper' : (2 : ℚ) * (scale * h) ≤ 2 * (100 * bytes) + scale := by exact_mod_cast upper
    have lower' : (2 : ℚ) * (100 * bytes) ≤ 2 * (scale * h) + scale := by exact_mod_cast lower
    rw [abs_le]
    constructor <;> linarith
  · have least' : (100 : ℚ) ≤ h := by exact_mod_cast least
    linarith
  · have whole : (h : ℚ) / 100 < 1024 ↔ h < 102400 := by
      rw [div_lt_iff₀ (by norm_num)]
      norm_num
    rw [whole]
    omega

/-- A size of one of the larger units, with the bands of bytes in which it is rounded up to 1024. -/
theorem exists_shown_unit {apart : Prop} (bytes scale : Nat) (unit : String) (positive : 0 < scale)
    (filled : scale ≤ bytes) (plain : ' ' ∉ unit.toList) (larger : unit ≠ "B")
    (known : unitSizes.get? unit = some scale)
    (bands : (unit ≠ "GB" → 200 * bytes < 204799 * scale) ↔ apart) :
    ∃ number unit' scale', shown? ((if unit = "B" then toString bytes else
        twoDecimals bytes scale) ++ " " ++ unit) = some (number, unit') ∧
      unitSizes.get? unit' = some scale' ∧
      |number.rational * scale' - bytes| ≤ scale' / 200 ∧
      (unit' ≠ "B" → 1 ≤ number.rational) ∧
      ((unit' ≠ "GB" → number.rational < 1024) ↔ apart) := by
  obtain ⟨number, shown, near, least, most⟩ :=
    exists_shown_hundredths bytes scale unit positive filled plain
  refine ⟨number, unit, scale, ?_, known, near, fun _ => least, ?_⟩
  · rw [if_neg larger]
    exact shown
  · rw [most]
    exact bands

/-- Below 2⁵³ bytes a size is read back as a number of some unit. The number times the unit is at
most half a hundredth of the unit away from the bytes, and it is at least 1 unless the unit is the
byte. It is below 1024 unless the unit is the gigabyte, except for the five sizes just below a
megabyte and for those just below a gigabyte that are not told from it. -/
theorem size_fits_unit_iff (bytes : Nat) (exact : bytes < 2 ^ 53) :
    ∃ number unit scale, shown? (size bytes) = some (number, unit) ∧
      unitSizes.get? unit = some scale ∧
      |number.rational * scale - bytes| ≤ scale / 200 ∧
      (unit ≠ "B" → 1 ≤ number.rational) ∧
      ((unit ≠ "GB" → number.rational < 1024) ↔
        ¬ (2 ^ 20 - 5 ≤ bytes ∧ bytes < 2 ^ 20) ∧ ¬ (2 ^ 30 - 5242 ≤ bytes ∧ bytes < 2 ^ 30)) := by
  obtain ⟨scale, unit, fills, text⟩ := exists_size_eq bytes exact
  have known := fills.get?_unitSizes
  rw [text]
  cases fills with
  | bytes below =>
    have plain : ' ' ∉ (toString bytes).toList := fun inside => by
      rw [Text.toList_toString] at inside
      exact absurd (Text.isDigit_of_mem_toDigits bytes ' ' inside) (by decide)
    refine ⟨⟨false, bytes, 0⟩, "B", 1, ?_, known, ?_, fun other => absurd rfl other, ?_⟩
    · rw [if_pos rfl]
      exact shown?_append _ "B" _ (DecimalLiteral.ofChars?_toString bytes) plain (by decide)
    · rw [DecimalLiteral.rational_whole]
      norm_num
    · have small : (bytes : ℚ) < 1024 := by exact_mod_cast below
      rw [DecimalLiteral.rational_whole]
      simp only [small, implies_true, true_iff]
      omega
  -- for each unit it remains that 1023.995 of it is where its band starts
  | kilobytes filled below =>
    exact exists_shown_unit bytes 1024 "KB" (by decide) filled (by decide) (by decide) known
      ((imp_iff_right (by decide)).trans (by omega))
  | megabytes filled below =>
    exact exists_shown_unit bytes (1024 ^ 2) "MB" (by decide) filled (by decide) (by decide) known
      ((imp_iff_right (by decide)).trans (by omega))
  | gigabytes filled =>
    exact exists_shown_unit bytes (1024 ^ 3) "GB" (by decide) filled (by decide) (by decide) known
      (iff_of_true (fun other => absurd rfl other) (by omega))

/-- The last size that is told from a megabyte. -/
theorem size_fits_unit_iff_below :
    size 1048570 = "1023.99 KB" ∧
      ∃ number unit scale, shown? (size 1048570) = some (number, unit) ∧
        unitSizes.get? unit = some scale ∧
        |number.rational * scale - 1048570| ≤ scale / 200 ∧
        (unit ≠ "B" → 1 ≤ number.rational) ∧ (unit ≠ "GB" → number.rational < 1024) := by
  obtain ⟨number, unit, scale, shown, known, near, least, most⟩ :=
    size_fits_unit_iff 1048570 (by decide)
  exact ⟨by decide +kernel, number, unit, scale, shown, known, by exact_mod_cast near, least,
    most.mpr (by decide)⟩

/-- The size just below a megabyte is written with the number of a megabyte, in kilobytes. -/
theorem size_reaches_unit :
    size 1048575 = "1024.00 KB" ∧
      ∃ number, shown? (size 1048575) = some (number, "KB") ∧ ¬ number.rational < 1024 := by
  refine ⟨by decide +kernel, ⟨false, 102400, -2⟩, by decide +kernel, ?_⟩
  rw [DecimalLiteral.rational_hundredths]
  norm_num

end Measure

end TsWorkshop
