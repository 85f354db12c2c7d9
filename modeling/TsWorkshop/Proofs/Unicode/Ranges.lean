import Mathlib.Tactic.ByContra
import Mathlib.Tactic.SplitIfs
import TsWorkshop.Text.Unicode.Range

/-!
Differences of sets of code points that are given by ranges in increasing order. The difference is
computed in one pass over both lists (`difference`) and is exact (`within_difference`), so that an
inclusion or a disjointness of two large tables is settled by evaluating it.
-/

namespace TsWorkshop.Unicode

/-- Whether a number lies in one of the ranges. -/
def Within (n : Nat) (ranges : List (Nat × Nat)) : Prop :=
  ∃ range ∈ ranges, range.1 ≤ n ∧ n ≤ range.2

@[simp]
theorem within_nil (n : Nat) : ¬ Within n [] := by
  simp [Within]

@[simp]
theorem within_cons (n low high : Nat) (rest : List (Nat × Nat)) :
    Within n ((low, high) :: rest) ↔ (low ≤ n ∧ n ≤ high) ∨ Within n rest := by
  simp [Within]

@[simp]
theorem within_append (n : Nat) (left right : List (Nat × Nat)) :
    Within n (left ++ right) ↔ Within n left ∨ Within n right := by
  simp [Within, or_and_right, exists_or]

theorem inRanges_iff (c : Char) (ranges : List (Nat × Nat)) :
    inRanges c ranges = true ↔ Within c.toNat ranges := by
  simp [inRanges, Within]

/-- Ranges in increasing order, none of them empty, the first one not below `least`. -/
def ascendingFrom (least : Nat) : List (Nat × Nat) → Bool
  | [] => true
  | (low, high) :: rest => least ≤ low && low ≤ high && ascendingFrom (high + 1) rest

theorem ascendingFrom_cons (least low high : Nat) (rest : List (Nat × Nat)) :
    ascendingFrom least ((low, high) :: rest) = true ↔
      least ≤ low ∧ low ≤ high ∧ ascendingFrom (high + 1) rest = true := by
  simp only [ascendingFrom, Bool.and_eq_true, decide_eq_true_eq, and_assoc]

theorem le_of_within (least n : Nat) (ranges : List (Nat × Nat))
    (h : ascendingFrom least ranges = true) (inside : Within n ranges) : least ≤ n := by
  induction ranges generalizing least with
  | nil => exact absurd inside (within_nil n)
  | cons range rest ih =>
    obtain ⟨low, high⟩ := range
    obtain ⟨first, ordered, later⟩ := (ascendingFrom_cons least low high rest).mp h
    rcases (within_cons n low high rest).mp inside with here | there
    · exact Nat.le_trans first here.1
    · have := ih (high + 1) later there
      omega

theorem ascendingFrom_mono (least lower : Nat) (h : lower ≤ least) (ranges : List (Nat × Nat))
    (ascending : ascendingFrom least ranges = true) : ascendingFrom lower ranges = true := by
  cases ranges with
  | nil => rfl
  | cons range rest =>
    obtain ⟨low, high⟩ := range
    obtain ⟨first, later⟩ := (ascendingFrom_cons least low high rest).mp ascending
    exact (ascendingFrom_cons lower low high rest).mpr ⟨Nat.le_trans h first, later⟩

/-! ### Cutting -/

/-- What lies below a number. -/
def below (bound : Nat) : List (Nat × Nat) → List (Nat × Nat)
  | [] => []
  | (low, high) :: rest =>
    if high < bound then (low, high) :: below bound rest
    else if low < bound then [(low, bound - 1)]
    else []

/-- What lies above a number. -/
def above (bound : Nat) : List (Nat × Nat) → List (Nat × Nat)
  | [] => []
  | (low, high) :: rest =>
    if high ≤ bound then above bound rest
    else if bound < low then (low, high) :: rest
    else (bound + 1, high) :: rest

theorem within_below (bound least n : Nat) (ranges : List (Nat × Nat))
    (h : ascendingFrom least ranges = true) :
    Within n (below bound ranges) ↔ Within n ranges ∧ n < bound := by
  induction ranges generalizing least with
  | nil => simp [below]
  | cons range rest ih =>
    obtain ⟨low, high⟩ := range
    obtain ⟨first, ordered, later⟩ := (ascendingFrom_cons least low high rest).mp h
    have behind := le_of_within (high + 1) n rest later
    unfold below
    split_ifs
    · rw [within_cons, ih (high + 1) later, within_cons]
      constructor
      · rintro (here | there)
        · exact ⟨Or.inl here, by omega⟩
        · exact ⟨Or.inr there.1, there.2⟩
      · rintro ⟨here | there, under⟩
        · exact Or.inl here
        · exact Or.inr ⟨there, under⟩
    · rw [within_cons, within_cons]
      constructor
      · rintro (here | there)
        · exact ⟨Or.inl (by omega), by omega⟩
        · exact absurd there (within_nil n)
      · rintro ⟨here | there, under⟩
        · exact Or.inl (by omega)
        · have := behind there
          omega
    · rw [within_cons]
      constructor
      · exact fun none => absurd none (within_nil n)
      · rintro ⟨here | there, under⟩
        · omega
        · have := behind there
          omega

theorem within_above (bound least n : Nat) (ranges : List (Nat × Nat))
    (h : ascendingFrom least ranges = true) :
    Within n (above bound ranges) ↔ Within n ranges ∧ bound < n := by
  induction ranges generalizing least with
  | nil => simp [above]
  | cons range rest ih =>
    obtain ⟨low, high⟩ := range
    obtain ⟨first, ordered, later⟩ := (ascendingFrom_cons least low high rest).mp h
    have behind := le_of_within (high + 1) n rest later
    unfold above
    split_ifs
    · rw [ih (high + 1) later, within_cons]
      constructor
      · exact fun there => ⟨Or.inr there.1, there.2⟩
      · rintro ⟨here | there, beyond⟩
        · omega
        · exact ⟨there, beyond⟩
    · rw [within_cons]
      constructor
      · rintro (here | there)
        · exact ⟨Or.inl here, by omega⟩
        · have := behind there
          exact ⟨Or.inr there, by omega⟩
      · exact And.left
    · rw [within_cons, within_cons]
      constructor
      · rintro (here | there)
        · exact ⟨Or.inl (by omega), by omega⟩
        · have := behind there
          exact ⟨Or.inr there, by omega⟩
      · rintro ⟨here | there, beyond⟩
        · exact Or.inl (by omega)
        · exact Or.inr there

theorem ascendingFrom_above (bound least : Nat) (ranges : List (Nat × Nat))
    (h : ascendingFrom least ranges = true) : ascendingFrom least (above bound ranges) = true := by
  induction ranges generalizing least with
  | nil => rfl
  | cons range rest ih =>
    obtain ⟨low, high⟩ := range
    obtain ⟨first, ordered, later⟩ := (ascendingFrom_cons least low high rest).mp h
    unfold above
    split_ifs
    · exact ascendingFrom_mono (high + 1) least (by omega) _ (ih (high + 1) later)
    · exact h
    · exact (ascendingFrom_cons _ _ _ _).mpr ⟨by omega, by omega, later⟩

/-! ### Differences -/

/-- What lies in the first ranges and not in the second ones. -/
def difference (ranges : List (Nat × Nat)) : List (Nat × Nat) → List (Nat × Nat)
  | [] => ranges
  | (low, high) :: rest => below low ranges ++ difference (above high ranges) rest

theorem within_difference (least least' n : Nat) (ranges others : List (Nat × Nat))
    (h : ascendingFrom least ranges = true) (h' : ascendingFrom least' others = true) :
    Within n (difference ranges others) ↔ Within n ranges ∧ ¬ Within n others := by
  induction others generalizing ranges least' with
  | nil => simp [difference]
  | cons range rest ih =>
    obtain ⟨low, high⟩ := range
    obtain ⟨first, ordered, later⟩ := (ascendingFrom_cons least' low high rest).mp h'
    have behind := le_of_within (high + 1) n rest later
    rw [difference, within_append, within_below low least n ranges h,
      ih (high + 1) (above high ranges) (ascendingFrom_above high least ranges h) later,
      within_above high least n ranges h, within_cons]
    constructor
    · rintro (⟨inside, under⟩ | ⟨⟨inside, beyond⟩, apart⟩)
      · refine ⟨inside, ?_⟩
        rintro (here | there)
        · omega
        · have := behind there
          omega
      · refine ⟨inside, ?_⟩
        rintro (here | there)
        · omega
        · exact apart there
    · rintro ⟨inside, apart⟩
      rcases Nat.lt_or_ge n low with under | notUnder
      · exact Or.inl ⟨inside, under⟩
      · have beyond : high < n := Nat.lt_of_not_le fun notBeyond =>
          apart (Or.inl ⟨notUnder, notBeyond⟩)
        exact Or.inr ⟨⟨inside, beyond⟩, fun there => apart (Or.inr there)⟩

/-- A character of the first ranges is in the second ones unless it is in their difference. -/
theorem inRanges_iff_of_difference {ranges others rest : List (Nat × Nat)}
    (h : ascendingFrom 0 ranges = true) (h' : ascendingFrom 0 others = true)
    (same : difference ranges others = rest) (c : Char) (inside : inRanges c ranges = true) :
    inRanges c others = true ↔ inRanges c rest = false := by
  have apart := within_difference 0 0 c.toNat ranges others h h'
  rw [inRanges_iff] at inside
  rw [← Bool.not_eq_true, inRanges_iff, inRanges_iff, ← same, apart]
  constructor
  · exact fun there outside => outside.2 there
  · intro outside
    by_contra missing
    exact outside ⟨inside, missing⟩

theorem inRanges_of_difference {ranges others rest : List (Nat × Nat)}
    (h : ascendingFrom 0 ranges = true) (h' : ascendingFrom 0 others = true)
    (same : difference ranges others = rest) (c : Char) (outside : inRanges c rest = true) :
    inRanges c others = false := by
  rw [inRanges_iff, ← same, within_difference 0 0 c.toNat ranges others h h'] at outside
  rw [← Bool.not_eq_true, inRanges_iff]
  exact outside.2

end TsWorkshop.Unicode
