import Mathlib.Algebra.Group.Nat.Defs
import Mathlib.Data.Nat.Log
import TsWorkshop.Number.Binary64

/-!
Rounding to whole numbers and to floating-point numbers. A rounded quotient is the whole part of the
quotient or the number behind it (`roundDiv_cases`), so it is at most half away from the quotient,
and an even number is reached from half below it on (`le_roundDiv_iff`). Whole numbers of 53 bits
are floating-point numbers (`exists_ofRatio_one`).
-/

namespace TsWorkshop.Binary64

/-! ### Rounded quotients -/

/-- The nearer neighbour is taken, and the even one of two that are as near. -/
theorem roundDiv_cases (num den : Nat) :
    (roundDiv num den = num / den ∧ 2 * (num % den) ≤ den ∨
        roundDiv num den = num / den + 1 ∧ den ≤ 2 * (num % den)) ∧
      (2 * (num % den) = den → roundDiv num den % 2 = 0) := by
  unfold roundDiv
  dsimp only
  split
  · omega
  · split
    · omega
    · split <;> omega

theorem roundDiv_one (num : Nat) : roundDiv num 1 = num := by
  simp [roundDiv, Nat.mod_one]

theorem roundDiv_mul_right (num den c : Nat) (positive : 0 < c) :
    roundDiv (num * c) (den * c) = roundDiv num den := by
  unfold roundDiv
  dsimp only
  rw [Nat.mul_div_mul_right num den positive, Nat.mul_mod_mul_right, ← Nat.mul_assoc]
  simp only [Nat.mul_lt_mul_right positive]

/-- The rounded quotient is at most half away from the quotient. -/
theorem roundDiv_near (num den : Nat) (positive : 0 < den) :
    2 * (den * roundDiv num den) ≤ 2 * num + den ∧
      2 * num ≤ 2 * (den * roundDiv num den) + den := by
  have parts := Nat.div_add_mod num den
  have rest := Nat.mod_lt num positive
  obtain ⟨⟨down, near⟩ | ⟨up, near⟩, -⟩ := roundDiv_cases num den
  · rw [down]
    omega
  · rw [up, Nat.mul_add]
    omega

/-- A quotient that is at least a whole number is not rounded below it. -/
theorem le_roundDiv (k num den : Nat) (positive : 0 < den) (reached : k * den ≤ num) :
    k ≤ roundDiv num den := by
  have whole : k ≤ num / den := (Nat.le_div_iff_mul_le positive).mpr reached
  obtain ⟨⟨down, -⟩ | ⟨up, -⟩, -⟩ := roundDiv_cases num den <;> omega

/-- An even number is reached from half below it on, since a half goes to the even neighbour. -/
theorem le_roundDiv_iff (k num den : Nat) (positive : 0 < den) (even : k % 2 = 0) :
    k ≤ roundDiv num den ↔ 2 * (den * k) ≤ 2 * num + den := by
  constructor
  · intro reached
    have upper := (roundDiv_near num den positive).1
    have scaled : den * k ≤ den * roundDiv num den := Nat.mul_le_mul_left den reached
    omega
  · intro near
    have parts := Nat.div_add_mod num den
    have rest := Nat.mod_lt num positive
    obtain ⟨⟨down, low⟩ | ⟨up, high⟩, tie⟩ := roundDiv_cases num den
    · by_contra short
      have next : den * (num / den + 1) ≤ den * k := Nat.mul_le_mul_left den (by omega)
      have further : num / den + 2 ≤ k → den * (num / den + 2) ≤ den * k :=
        Nat.mul_le_mul_left den
      rw [Nat.mul_add] at next further
      omega
    · by_contra short
      have further : den * (num / den + 2) ≤ den * k := Nat.mul_le_mul_left den (by omega)
      rw [Nat.mul_add] at further
      omega

/-! ### Whole numbers -/

theorem floorLog2_one (n : Nat) (positive : n ≠ 0) : floorLog2 n 1 = n.log2 := by
  have below := Nat.log2_self_le positive
  have one : Nat.log2 1 = 0 := by decide
  unfold floorLog2
  simp [one, below]

/-- A whole number of at most 53 bits is a floating-point number. -/
theorem exists_ofRatio_one (n : Nat) (small : n < 2 ^ 53) :
    ∃ x, ofRatio false n 1 = some x ∧ 0 < x.ratio.2 ∧ x.ratio.1 = n * x.ratio.2 := by
  by_cases zero : n = 0
  · refine ⟨⟨false, 0, -1074⟩, ?_, by decide +kernel, ?_⟩
    · unfold ofRatio
      rw [if_pos zero]
    · rw [zero, Nat.zero_mul]
      rfl
  have bits : n.log2 < 53 := (Nat.log2_lt zero).mpr small
  obtain ⟨k, total⟩ : ∃ k, n.log2 + k = 52 := ⟨52 - n.log2, by omega⟩
  have exponent : max (floorLog2 n 1 - 52) (-1074) = -(k : Int) := by
    rw [floorLog2_one n zero]
    omega
  have mantissa : scaledRound n 1 (-(k : Int)) = n * 2 ^ k := by
    unfold scaledRound
    cases k with
    | zero => simp [roundDiv_one]
    | succ k =>
      rw [if_neg (by omega), Int.neg_neg, Int.toNat_natCast, roundDiv_one]
      rfl
  have fits : n * 2 ^ k < 2 ^ 53 := by
    calc
      n * 2 ^ k < 2 ^ (n.log2 + 1) * 2 ^ k :=
        Nat.mul_lt_mul_of_pos_right Nat.lt_log2_self (Nat.two_pow_pos k)
      _ = 2 ^ 53 := by
        rw [← Nat.pow_add]
        congr 1
        omega
  refine ⟨⟨false, n * 2 ^ k, -(k : Int)⟩, ?_, ?_⟩
  · unfold ofRatio
    rw [if_neg zero, exponent]
    dsimp only
    rw [mantissa]
    have normal : ¬ n * 2 ^ k = 2 * minNormal := by
      unfold minNormal
      omega
    rw [if_neg normal]
    simp
  · unfold ratio
    cases k with
    | zero => simp
    | succ k =>
      dsimp only
      rw [if_neg (by omega), Int.neg_neg, Int.toNat_natCast]
      exact ⟨Nat.two_pow_pos _, rfl⟩

end TsWorkshop.Binary64
