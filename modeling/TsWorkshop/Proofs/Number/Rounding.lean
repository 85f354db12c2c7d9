import Mathlib.Algebra.Order.Field.Power
import Mathlib.Data.Int.Log
import Mathlib.Data.Rat.Floor
import Mathlib.Tactic.FieldSimp
import Mathlib.Tactic.Linarith
import Mathlib.Tactic.Ring
import TsWorkshop.Proofs.Number.Binary64

/-!
Floating-point numbers as rational numbers. A ratio is rounded to a multiple of its last place
(`exists_ofRatio`), which its logarithm gives (`floorLog2_eq_log`). So the rounded number is at most
half of that place away (`rounded_near`), and a larger ratio is never rounded to a smaller number
(`rounded_mono`).
-/

namespace TsWorkshop.Binary64

/-! ### Powers of two -/

theorem zpow_two_of_nonneg (e : Int) (h : 0 ≤ e) : (2 : ℚ) ^ e = (Nat.pow 2 e.toNat : Nat) := by
  obtain ⟨k, rfl⟩ := Int.eq_ofNat_of_zero_le h
  simp

theorem zpow_two_of_neg (e : Int) (h : ¬ 0 ≤ e) :
    (2 : ℚ) ^ e = ((Nat.pow 2 (-e).toNat : Nat) : ℚ)⁻¹ := by
  rw [← zpow_two_of_nonneg (-e) (by omega), zpow_neg, inv_inv]

theorem zpow_two_pos (e : Int) : (0 : ℚ) < 2 ^ e := zpow_pos (by norm_num) e

theorem zpow_two_add (e : Int) (k : Nat) : (2 : ℚ) ^ (e + k) = (2 ^ k : Nat) * 2 ^ e := by
  rw [add_comm, zpow_add₀ (by norm_num), zpow_natCast, Nat.cast_pow, Nat.cast_ofNat]

/-- The number without its sign. -/
def magnitude (x : Binary64) : ℚ := x.mantissa * 2 ^ x.exponent

/-- The ratio is that of the magnitude. -/
theorem ratio_magnitude (x : Binary64) :
    0 < x.ratio.2 ∧ (x.ratio.1 : ℚ) / x.ratio.2 = x.magnitude := by
  unfold ratio magnitude
  split
  · rename_i whole
    rw [zpow_two_of_nonneg _ whole]
    simp
  · rename_i fraction
    rw [zpow_two_of_neg _ fraction, ← div_eq_mul_inv]
    exact ⟨Nat.two_pow_pos _, rfl⟩

/-! ### The last place -/

/-- A ratio is compared with a power of two by whole numbers. -/
theorem lt_zpow_two_iff (num den : Nat) (positive : 0 < den) (e : Int) :
    (if 0 ≤ e then num < den * Nat.pow 2 e.toNat else num * Nat.pow 2 (-e).toNat < den) ↔
      (num : ℚ) / den < 2 ^ e := by
  have den' : (0 : ℚ) < den := by exact_mod_cast positive
  split
  · rename_i whole
    rw [zpow_two_of_nonneg e whole, div_lt_iff₀' den']
    exact_mod_cast Iff.rfl
  · rename_i fraction
    have power : (0 : ℚ) < (Nat.pow 2 (-e).toNat : Nat) := by exact_mod_cast Nat.two_pow_pos _
    rw [zpow_two_of_neg e fraction, div_lt_iff₀ den', inv_mul_eq_div, lt_div_iff₀ power]
    exact_mod_cast Iff.rfl

/-- A number lies between the powers of two that its number of bits gives. -/
theorem zpow_log2_bounds (n : Nat) (positive : 0 < n) :
    (2 : ℚ) ^ (n.log2 : Int) ≤ n ∧ (n : ℚ) < 2 ^ ((n.log2 : Int) + 1) := by
  constructor
  · exact_mod_cast Nat.log2_self_le positive.ne'
  · exact_mod_cast Nat.lt_log2_self (n := n)

/-- The numbers of bits of a ratio give its logarithm or one more. -/
theorem log_bounds (num den : Nat) (some : 0 < num) (positive : 0 < den) :
    (num.log2 : Int) - den.log2 - 1 ≤ Int.log 2 ((num : ℚ) / den) ∧
      Int.log 2 ((num : ℚ) / den) ≤ num.log2 - den.log2 := by
  obtain ⟨numLow, numHigh⟩ := zpow_log2_bounds num some
  obtain ⟨denLow, denHigh⟩ := zpow_log2_bounds den positive
  have den' : (0 : ℚ) < den := by exact_mod_cast positive
  have ratio : (0 : ℚ) < num / den := by positivity
  constructor
  · refine (Int.zpow_le_iff_le_log (by decide) ratio).mp ((le_div_iff₀ den').mpr ?_)
    calc (2 : ℚ) ^ ((num.log2 : Int) - den.log2 - 1) * den
      _ ≤ 2 ^ ((num.log2 : Int) - den.log2 - 1) * 2 ^ ((den.log2 : Int) + 1) :=
        mul_le_mul_of_nonneg_left denHigh.le (zpow_two_pos _).le
      _ = 2 ^ (num.log2 : Int) := by
        rw [← zpow_add₀ (by norm_num)]
        congr 1
        omega
      _ ≤ num := numLow
  · refine Int.lt_add_one_iff.mp ((Int.lt_zpow_iff_log_lt (by decide) ratio).mp
      ((div_lt_iff₀ den').mpr ?_))
    calc (num : ℚ)
      _ < 2 ^ ((num.log2 : Int) + 1) := numHigh
      _ = 2 ^ ((num.log2 : Int) - den.log2 + 1) * 2 ^ (den.log2 : Int) := by
        rw [← zpow_add₀ (by norm_num)]
        congr 1
        omega
      _ ≤ 2 ^ ((num.log2 : Int) - den.log2 + 1) * den :=
        mul_le_mul_of_nonneg_left denLow (zpow_two_pos _).le

/-- The estimate from the numbers of bits is corrected by one comparison. -/
theorem floorLog2_eq_log (num den : Nat) (some : 0 < num) (positive : 0 < den) :
    floorLog2 num den = Int.log 2 ((num : ℚ) / den) := by
  have ratio : (0 : ℚ) < num / den := by positivity
  have bounds := log_bounds num den some positive
  unfold floorLog2
  dsimp only
  by_cases below : (num : ℚ) / den < 2 ^ ((num.log2 : Int) - den.log2)
  · have := (Int.lt_zpow_iff_log_lt (b := 2) (by decide) ratio).mp below
    rw [if_pos ((lt_zpow_two_iff num den positive _).mpr below)]
    omega
  · have := (Int.zpow_le_iff_le_log (b := 2) (by decide) ratio).mp (not_lt.mp below)
    rw [if_neg fun big => below ((lt_zpow_two_iff num den positive _).mp big)]
    omega

/-- The exponent of the last place that is kept of a number. -/
def lastPlace (q : ℚ) : Int := max (Int.log 2 q - 52) (-1074)

theorem lastPlace_mono (q q' : ℚ) (positive : 0 < q) (le : q ≤ q') :
    lastPlace q ≤ lastPlace q' := by
  have logs := Int.log_mono_right (b := 2) positive le
  unfold lastPlace
  omega

theorem lastPlace_le (q : ℚ) (e : Int) (kept : -52 ≤ e) (small : q < 2 ^ (e + 53)) :
    lastPlace q ≤ e := by
  rcases le_or_gt q 0 with none | positive
  -- without a logarithm the place is that of one
  · rw [lastPlace, Int.log_of_right_le_zero 2 none]
    omega
  · have := (Int.lt_zpow_iff_log_lt (b := 2) (by decide) positive).mp (by exact_mod_cast small)
    unfold lastPlace
    omega

theorem lt_zpow_lastPlace (q : ℚ) : q < 2 ^ (lastPlace q + 53) := by
  have beyond := Int.lt_zpow_succ_log_self (b := 2) (by decide) q
  refine beyond.trans_le (zpow_le_zpow_right₀ (by norm_num) ?_)
  unfold lastPlace
  omega

/-- Above the least place all 53 bits are used. -/
theorem zpow_lastPlace_le (q : ℚ) (positive : 0 < q) (above : -1074 < lastPlace q) :
    2 ^ (lastPlace q + 52) ≤ q := by
  have reached := Int.zpow_log_le_self (b := 2) (by decide) positive
  have exact : lastPlace q + 52 = Int.log 2 q := by
    unfold lastPlace at above ⊢
    omega
  rw [exact]
  exact_mod_cast reached

/-! ### Rounding to a place -/

theorem roundDiv_le_roundDiv (num num' den : Nat) (le : num ≤ num') :
    roundDiv num den ≤ roundDiv num' den := by
  have quotients : num / den ≤ num' / den := Nat.div_le_div_right le
  have parts := Nat.div_add_mod num den
  have parts' := Nat.div_add_mod num' den
  obtain ⟨near, tie⟩ := roundDiv_cases num den
  obtain ⟨near', tie'⟩ := roundDiv_cases num' den
  rcases quotients.lt_or_eq with further | same
  · omega
  -- with equal whole parts only two ties could cross, and both go to the same even number
  · rw [← same] at parts' near'
    omega

/-- A larger ratio is not rounded to a smaller whole number. -/
theorem roundDiv_mono (num den num' den' : Nat) (positive : 0 < den) (positive' : 0 < den')
    (le : (num : ℚ) / den ≤ num' / den') : roundDiv num den ≤ roundDiv num' den' := by
  have crossed : num * den' ≤ num' * den := by
    rw [div_le_div_iff₀ (by exact_mod_cast positive) (by exact_mod_cast positive')] at le
    exact_mod_cast le
  calc roundDiv num den
    _ = roundDiv (num * den') (den * den') := (roundDiv_mul_right num den den' positive').symm
    _ ≤ roundDiv (num' * den) (den * den') := roundDiv_le_roundDiv _ _ _ crossed
    _ = roundDiv num' den' := by
      rw [Nat.mul_comm den den', roundDiv_mul_right num' den' den positive]

/-- The rounded quotient is at most half away from the quotient. -/
theorem abs_roundDiv_sub_le (num den : Nat) (positive : 0 < den) :
    |(roundDiv num den : ℚ) - num / den| ≤ 1 / 2 := by
  have den' : (0 : ℚ) < den := by exact_mod_cast positive
  obtain ⟨upper, lower⟩ := roundDiv_near num den positive
  have upper' : (2 : ℚ) * (den * roundDiv num den) ≤ 2 * num + den := by exact_mod_cast upper
  have lower' : (2 : ℚ) * num ≤ 2 * (den * roundDiv num den) + den := by exact_mod_cast lower
  have above : (num : ℚ) / den ≤ roundDiv num den + 1 / 2 := by
    rw [div_le_iff₀ den']
    linarith
  have below : (roundDiv num den : ℚ) - 1 / 2 ≤ num / den := by
    rw [le_div_iff₀ den']
    linarith
  rw [abs_le]
  constructor <;> linarith

/-- Rounding to a place is rounding of the ratio by the place to a whole number. -/
theorem exists_scaledRound (num den : Nat) (positive : 0 < den) (e : Int) :
    ∃ a b, 0 < b ∧ scaledRound num den e = roundDiv a b ∧ (a : ℚ) / b = num / den / 2 ^ e := by
  unfold scaledRound
  split
  · rename_i whole
    refine ⟨num, den * Nat.pow 2 e.toNat, Nat.mul_pos positive (Nat.two_pow_pos _), rfl, ?_⟩
    rw [zpow_two_of_nonneg e whole, Nat.cast_mul, div_div]
  · rename_i fraction
    refine ⟨num * Nat.pow 2 (-e).toNat, den, positive, rfl, ?_⟩
    rw [zpow_two_of_neg e fraction, Nat.cast_mul, div_inv_eq_mul, div_mul_eq_mul_div]

theorem scaledRound_mono (num den num' den' : Nat) (positive : 0 < den) (positive' : 0 < den')
    (e e' : Int) (le : (num : ℚ) / den / 2 ^ e ≤ num' / den' / 2 ^ e') :
    scaledRound num den e ≤ scaledRound num' den' e' := by
  obtain ⟨a, b, some, rounded, ratio⟩ := exists_scaledRound num den positive e
  obtain ⟨a', b', some', rounded', ratio'⟩ := exists_scaledRound num' den' positive' e'
  rw [rounded, rounded']
  exact roundDiv_mono a b a' b' some some' (by rw [ratio, ratio']; exact le)

theorem scaledRound_whole (k : Nat) : scaledRound k 1 0 = k := by
  simp [scaledRound, roundDiv_one]

/-- A multiple of the place is not passed. -/
theorem scaledRound_le (num den k : Nat) (positive : 0 < den) (e : Int)
    (le : (num : ℚ) / den ≤ k * 2 ^ e) : scaledRound num den e ≤ k := by
  have power := zpow_two_pos e
  rw [← scaledRound_whole k]
  refine scaledRound_mono _ _ _ _ positive Nat.one_pos _ _ ?_
  rw [div_le_iff₀ power]
  simpa using le

theorem le_scaledRound (num den k : Nat) (positive : 0 < den) (e : Int)
    (le : k * 2 ^ e ≤ (num : ℚ) / den) : k ≤ scaledRound num den e := by
  have power := zpow_two_pos e
  rw [← scaledRound_whole k]
  refine scaledRound_mono _ _ _ _ Nat.one_pos positive _ _ ?_
  rw [le_div_iff₀ power]
  simpa using le

theorem abs_scaledRound_sub_le (num den : Nat) (positive : 0 < den) (e : Int) :
    |scaledRound num den e * 2 ^ e - (num : ℚ) / den| ≤ 2 ^ e / 2 := by
  have power := zpow_two_pos e
  obtain ⟨a, b, some, rounded, ratio⟩ := exists_scaledRound num den positive e
  have near := abs_roundDiv_sub_le a b some
  rw [ratio, ← rounded] at near
  calc |scaledRound num den e * 2 ^ e - (num : ℚ) / den|
    _ = |scaledRound num den e - (num : ℚ) / den / 2 ^ e| * 2 ^ e := by
      rw [← abs_of_pos power, ← abs_mul, abs_of_pos power, sub_mul, div_mul_cancel₀ _ power.ne']
    _ ≤ 1 / 2 * 2 ^ e := mul_le_mul_of_nonneg_right near power.le
    _ = 2 ^ e / 2 := by ring

/-! ### Rounding to a floating-point number -/

/-- A ratio rounded to its last place. -/
def rounded (num den : Nat) : ℚ :=
  scaledRound num den (lastPlace (num / den)) * 2 ^ lastPlace ((num : ℚ) / den)

/-- The rounded number is at most half of the last place away from the ratio. -/
theorem rounded_near (num den : Nat) (positive : 0 < den) (e : Int)
    (place : lastPlace ((num : ℚ) / den) ≤ e) : |rounded num den - num / den| ≤ 2 ^ e / 2 := by
  calc |rounded num den - num / den|
    _ ≤ 2 ^ lastPlace ((num : ℚ) / den) / 2 := abs_scaledRound_sub_le num den positive _
    _ ≤ 2 ^ e / 2 :=
      div_le_div_of_nonneg_right (zpow_le_zpow_right₀ (by norm_num) place) (by norm_num)

theorem rounded_nonneg (num den : Nat) : 0 ≤ rounded num den :=
  mul_nonneg (Nat.cast_nonneg _) (zpow_two_pos _).le

theorem rounded_zero (den : Nat) (positive : 0 < den) : rounded 0 den = 0 := by
  have none := scaledRound_le 0 den 0 positive (lastPlace ((0 : Nat) / den)) (by simp)
  rw [rounded, Nat.le_zero.mp none, Nat.cast_zero, zero_mul]

theorem rounded_le_zpow (num den : Nat) (positive : 0 < den) :
    rounded num den ≤ 2 ^ (lastPlace ((num : ℚ) / den) + 53) := by
  have below := (lt_zpow_lastPlace ((num : ℚ) / den)).le
  unfold rounded
  generalize lastPlace ((num : ℚ) / den) = place at below ⊢
  have full : (2 : ℚ) ^ (place + 53) = (2 ^ 53 : Nat) * 2 ^ place := zpow_two_add place 53
  rw [full] at below ⊢
  have count := scaledRound_le num den (2 ^ 53) positive place below
  exact mul_le_mul_of_nonneg_right (by exact_mod_cast count) (zpow_two_pos place).le

theorem zpow_le_rounded (num den : Nat) (some : 0 < num) (positive : 0 < den)
    (above : -1074 < lastPlace ((num : ℚ) / den)) :
    2 ^ (lastPlace ((num : ℚ) / den) + 52) ≤ rounded num den := by
  have reached := zpow_lastPlace_le ((num : ℚ) / den) (by positivity) above
  unfold rounded
  generalize lastPlace ((num : ℚ) / den) = place at reached ⊢
  have half : (2 : ℚ) ^ (place + 52) = (2 ^ 52 : Nat) * 2 ^ place := zpow_two_add place 52
  rw [half] at reached ⊢
  have count := le_scaledRound num den (2 ^ 52) positive place reached
  exact mul_le_mul_of_nonneg_right (by exact_mod_cast count) (zpow_two_pos place).le

/-- A larger ratio is not rounded to a smaller number. -/
theorem rounded_mono (num den num' den' : Nat) (positive : 0 < den) (positive' : 0 < den')
    (le : (num : ℚ) / den ≤ num' / den') : rounded num den ≤ rounded num' den' := by
  rcases Nat.eq_zero_or_pos num with rfl | some
  · rw [rounded_zero den positive]
    exact rounded_nonneg num' den'
  have ratio : (0 : ℚ) < num / den := by positivity
  have some' : 0 < num' := by
    by_contra none
    rw [Nat.eq_zero_of_not_pos none, Nat.cast_zero, zero_div] at le
    exact absurd ratio (not_lt.mpr le)
  rcases (lastPlace_mono _ _ ratio le).lt_or_eq with further | same
  -- a power of two lies between a significand of a smaller place and one of a larger place
  · have low : -1074 ≤ lastPlace ((num : ℚ) / den) := le_max_right _ _
    calc rounded num den
      _ ≤ 2 ^ (lastPlace ((num : ℚ) / den) + 53) := rounded_le_zpow num den positive
      _ ≤ 2 ^ (lastPlace ((num' : ℚ) / den') + 52) :=
        zpow_le_zpow_right₀ (by norm_num) (by omega)
      _ ≤ rounded num' den' := zpow_le_rounded num' den' some' positive' (by omega)
  · unfold rounded
    rw [same]
    have place := zpow_two_pos (lastPlace ((num' : ℚ) / den'))
    have counts := scaledRound_mono num den num' den' positive positive' _ _
      (div_le_div_of_nonneg_right le place.le)
    exact mul_le_mul_of_nonneg_right (by exact_mod_cast counts) place.le

/-- A ratio is rounded to its last place. A significand that is rounded up to 54 bits is halved and
belongs to the next place. -/
theorem exists_ofRatio (negative : Bool) (num den : Nat) (positive : 0 < den)
    (finite : lastPlace ((num : ℚ) / den) ≤ 970) :
    ∃ x, ofRatio negative num den = some x ∧ x.magnitude = rounded num den := by
  unfold ofRatio
  by_cases zero : num = 0
  · refine ⟨⟨negative, 0, -1074⟩, if_pos zero, ?_⟩
    rw [zero, rounded_zero den positive]
    simp [magnitude]
  rw [if_neg zero, floorLog2_eq_log num den (Nat.pos_of_ne_zero zero) positive, ← lastPlace]
  unfold rounded
  dsimp only
  generalize scaledRound num den (lastPlace (num / den)) = significand
  generalize lastPlace ((num : ℚ) / den) = place at finite
  by_cases full : significand = 2 * minNormal
  · refine ⟨⟨negative, minNormal, place + 1⟩, ?_, ?_⟩
    · rw [if_pos full]
      exact if_neg (by omega)
    · rw [full, magnitude, zpow_add_one₀ (by norm_num)]
      push_cast
      ring
  · refine ⟨⟨negative, significand, place⟩, ?_, rfl⟩
    rw [if_neg full]
    exact if_neg (by omega)

end TsWorkshop.Binary64
