import TsWorkshop.Proofs.Number.Rounding
import TsWorkshop.Proofs.Report.Size

/-!
Durations and their forms. A duration that is shown is read back as an amount of time in one of
three forms (`Elapsed.ofText?`). The amount is less than a unit of its last place away from the
duration, and it grows with the duration. But seconds are rounded after their form was chosen, so
just below a minute they are written as 60 (`text_fits_form_iff`).
-/

namespace TsWorkshop.Measure

/-! ### Reading the text -/

/-- A length of time as it is written. -/
inductive Elapsed where
  | milliseconds (number : DecimalLiteral)
  | seconds (number : DecimalLiteral)
  | minutes (number rest : DecimalLiteral)
  deriving DecidableEq, Repr

namespace Elapsed

/-- The length of time in seconds. -/
def amount : Elapsed → ℚ
  | milliseconds number => number.rational / 1000
  | seconds number => number.rational
  | minutes number rest => 60 * number.rational + rest.rational

/-- The last place that is written, in seconds. -/
def place : Elapsed → ℚ
  | milliseconds _ => 1 / 1000
  | seconds _ => 1 / 100
  | minutes _ _ => 1

/-- What is written stays below the next larger unit: 999 milliseconds, 59.99 seconds, and 59 whole
seconds behind the minutes are the most. -/
def FitsForm : Elapsed → Prop
  | milliseconds number => number.rational ≤ 999
  | seconds number => number.rational ≤ 59.99
  | minutes _ rest => ∃ n : Nat, rest.rational = n ∧ n ≤ 59

/-- The characters of a number in plain notation. -/
def isNumeral (c : Char) : Bool := c.isDigit || c == '.'

/-- A number and the unit behind it. -/
def quantity? (text : String) : Option (DecimalLiteral × String) :=
  let numeral := text.toList.takeWhile isNumeral
  let unit := text.toList.dropWhile isNumeral
  (DecimalLiteral.ofChars? numeral).map fun number => (number, String.ofList unit)

/-- The form that the units stand for. -/
def ofQuantities? : List (Option (DecimalLiteral × String)) → Option Elapsed
  | [some (number, "ms")] => some (milliseconds number)
  | [some (number, "s")] => some (seconds number)
  | [some (number, "m"), some (rest, "s")] => some (minutes number rest)
  | _ => none

/-- The length of time that a text shows. -/
def ofText? (text : String) : Option Elapsed :=
  ofQuantities? ((Text.split ' ' text).map quantity?)

theorem isNumeral_of_isDigit (c : Char) (h : c.isDigit = true) : isNumeral c = true := by
  rw [isNumeral, h, Bool.true_or]

theorem quantity?_append (numeral unit : String) (number : DecimalLiteral)
    (read : DecimalLiteral.ofChars? numeral.toList = some number)
    (plain : ∀ c ∈ numeral.toList, isNumeral c = true)
    (letter : unit.toList.head?.all (fun c => !isNumeral c) = true) :
    quantity? (numeral ++ unit) = some (number, unit) := by
  have stop : unit.toList.takeWhile isNumeral = [] ∧
      unit.toList.dropWhile isNumeral = unit.toList := by
    cases chars : unit.toList with
    | nil => exact ⟨rfl, rfl⟩
    | cons c rest =>
      have other : isNumeral c = false := by simpa [chars] using letter
      simp [other]
  unfold quantity?
  rw [String.toList_append, List.takeWhile_append_of_pos plain,
    List.dropWhile_append_of_pos plain, stop.1, stop.2, List.append_nil]
  dsimp only
  rw [read, Option.map_some, String.ofList_toList]

/-! A whole number or one with two decimals, read with the letters behind it. -/

theorem quantity?_toString (n : Nat) (unit : String)
    (letter : unit.toList.head?.all (fun c => !isNumeral c) = true) :
    quantity? (toString n ++ unit) = some (⟨false, n, 0⟩, unit) := by
  refine quantity?_append _ unit _ (DecimalLiteral.ofChars?_toString n) (fun c inside => ?_) letter
  rw [Text.toList_toString] at inside
  exact isNumeral_of_isDigit c (Text.isDigit_of_mem_toDigits n c inside)

theorem quantity?_twoDecimals (num den : Nat) (unit : String)
    (letter : unit.toList.head?.all (fun c => !isNumeral c) = true) :
    quantity? (twoDecimals num den ++ unit) =
      some (⟨false, Binary64.roundDiv (100 * num) den, -2⟩, unit) := by
  refine quantity?_append _ unit _ (ofChars?_twoDecimals num den) (fun c inside => ?_) letter
  obtain ⟨whole, fraction, chars, -, -, digits, -⟩ := exists_toList_twoDecimals num den
  rw [chars, List.mem_append, List.mem_cons] at inside
  rcases inside with isWhole | rfl | isFraction
  · exact isNumeral_of_isDigit c (digits c (List.mem_append_left _ isWhole))
  · rfl
  · exact isNumeral_of_isDigit c (digits c (List.mem_append_right _ isFraction))

theorem space_not_mem_toDigits (n : Nat) : ' ' ∉ Nat.toDigits 10 n := fun inside =>
  absurd (Text.isDigit_of_mem_toDigits n ' ' inside) (by decide)

/-- Quantities with blanks between them are read one by one. -/
theorem ofText?_join (pieces : List String) (some : pieces ≠ [])
    (plain : ∀ piece ∈ pieces, ' ' ∉ piece.toList) :
    ofText? (Text.join " " pieces) = ofQuantities? (pieces.map quantity?) := by
  have split : Text.split ' ' (Text.join " " pieces) = pieces :=
    Text.split_join ' ' pieces some plain
  rw [ofText?, split]

end Elapsed

/-! ### The duration in seconds -/

namespace Duration

/-- The length of time in seconds. -/
def amount (d : Duration) : ℚ := d.seconds + d.nanoseconds / 1000000000

/-- The nanoseconds are less than a second, as in every duration that a clock measures. -/
def IsProper (d : Duration) : Prop := d.nanoseconds < 1000000000

instance (d : Duration) : Decidable d.IsProper :=
  inferInstanceAs (Decidable (d.nanoseconds < 1000000000))

/-- Whole milliseconds. -/
def milliseconds (d : Duration) : Nat := d.seconds * 1000 + d.nanoseconds / 1000000

theorem amount_le_iff (d d' : Duration) : d.amount ≤ d'.amount ↔
    d.seconds * 1000000000 + d.nanoseconds ≤ d'.seconds * 1000000000 + d'.nanoseconds := by
  have scaled : ∀ d : Duration,
      d.amount = (d.seconds * 1000000000 + d.nanoseconds : Nat) / 1000000000 := by
    intro d
    rw [amount]
    push_cast
    ring
  rw [scaled, scaled, div_le_div_iff_of_pos_right (by norm_num), Nat.cast_le]

end Duration

/-- A ratio that is not too large is rounded to a floating-point number. -/
theorem nearest_rounded (num den : Nat) (positive : 0 < den)
    (finite : Binary64.lastPlace ((num : ℚ) / den) ≤ 970) :
    0 < (nearest num den).2 ∧
      ((nearest num den).1 : ℚ) / (nearest num den).2 = Binary64.rounded num den := by
  obtain ⟨x, found, exact⟩ := Binary64.exists_ofRatio false num den positive finite
  unfold nearest
  rw [found, ← exact]
  exact x.ratio_magnitude

namespace Duration

/-- The nanoseconds as a floating-point number of seconds. -/
def fraction (d : Duration) : ℚ := Binary64.rounded d.nanoseconds 1000000000

theorem lastPlace_fraction (d : Duration) (proper : d.IsProper) :
    Binary64.lastPlace ((d.nanoseconds : ℚ) / (1000000000 : Nat)) ≤ -52 := by
  refine Binary64.lastPlace_le _ (-52) le_rfl ?_
  calc (d.nanoseconds : ℚ) / (1000000000 : Nat)
    _ < 1 := by
      rw [div_lt_one (by norm_num)]
      exact_mod_cast proper
    _ ≤ 2 ^ ((-52 : Int) + 53) := by norm_num

theorem fraction_near (d : Duration) (proper : d.IsProper) :
    |d.fraction - d.nanoseconds / 1000000000| ≤ 1 / 2 ^ 53 := by
  calc |d.fraction - d.nanoseconds / 1000000000|
    _ ≤ 2 ^ (-52 : Int) / 2 := by
      exact_mod_cast Binary64.rounded_near d.nanoseconds 1000000000 (by decide) (-52)
        (lastPlace_fraction d proper)
    _ = 1 / 2 ^ 53 := by norm_num

theorem fraction_nonneg (d : Duration) : 0 ≤ d.fraction := Binary64.rounded_nonneg _ _

theorem fraction_le_one (d : Duration) (proper : d.IsProper) : d.fraction ≤ 1 := by
  have near := (abs_le.mp (fraction_near d proper)).2
  have below : (d.nanoseconds : ℚ) ≤ 999999999 := by exact_mod_cast Nat.le_of_lt_succ proper
  linarith

/-- Of two proper durations the longer one has no smaller sum of seconds and rounded fraction: the
fraction of the shorter one is at most a whole second. -/
theorem add_fraction_mono (d d' : Duration) (proper : d.IsProper) (proper' : d'.IsProper)
    (le : d.amount ≤ d'.amount) :
    (d.seconds : ℚ) + d.fraction ≤ d'.seconds + d'.fraction := by
  rw [amount_le_iff] at le
  unfold IsProper at proper proper'
  rcases Nat.lt_or_ge d.seconds d'.seconds with earlier | later
  · have next : (d.seconds : ℚ) + 1 ≤ d'.seconds := by exact_mod_cast earlier
    have high := fraction_le_one d proper
    have low := fraction_nonneg d'
    linarith
  · have same : d.seconds = d'.seconds := by omega
    have more : d.nanoseconds ≤ d'.nanoseconds := by omega
    have fractions : d.fraction ≤ d'.fraction := by
      refine Binary64.rounded_mono _ _ _ _ (by decide) (by decide) ?_
      exact div_le_div_of_nonneg_right (by exact_mod_cast more) (by norm_num)
    rw [same]
    linarith

/-- Below a minute the seconds are the sum of the whole seconds and the rounded fraction, rounded
once more. -/
theorem exists_inSeconds (d : Duration) (proper : d.IsProper) (short : d.seconds < 60) :
    ∃ num den : Nat, 0 < den ∧ (num : ℚ) / den = d.seconds + d.fraction ∧
      Binary64.lastPlace ((num : ℚ) / den) ≤ -47 ∧ 0 < d.inSeconds.2 ∧
      (d.inSeconds.1 : ℚ) / d.inSeconds.2 = Binary64.rounded num den := by
  obtain ⟨den, positive, whole⟩ := exists_nearest_one d.seconds (by omega)
  obtain ⟨positive', same⟩ := nearest_rounded d.nanoseconds 1000000000 (by decide)
    ((lastPlace_fraction d proper).trans (by decide))
  obtain ⟨num', den', parts⟩ : ∃ num' den', nearest d.nanoseconds 1000000000 = (num', den') :=
    ⟨_, _, rfl⟩
  rw [parts] at positive' same
  have sum : (((d.seconds * den) * den' + num' * den : Nat) : ℚ) / (den * den' : Nat) =
      d.seconds + d.fraction := by
    have some : (den : ℚ) ≠ 0 := by exact_mod_cast positive.ne'
    have some' : (den' : ℚ) ≠ 0 := by exact_mod_cast positive'.ne'
    rw [fraction, ← same]
    push_cast
    field_simp
  have place : Binary64.lastPlace ((((d.seconds * den) * den' + num' * den : Nat) : ℚ) /
      (den * den' : Nat)) ≤ -47 := by
    refine Binary64.lastPlace_le _ (-47) (by decide) ?_
    have seconds : (d.seconds : ℚ) ≤ 59 := by exact_mod_cast Nat.le_of_lt_succ short
    have most := fraction_le_one d proper
    rw [sum]
    norm_num
    linarith
  have exact := nearest_rounded _ _ (Nat.mul_pos positive positive') (place.trans (by decide))
  refine ⟨_, _, Nat.mul_pos positive positive', sum, place, ?_⟩
  unfold inSeconds
  rw [whole, parts]
  exact exact

/-- The hundredths of a second that are written. -/
def hundredths (d : Duration) : Nat := Binary64.roundDiv (100 * d.inSeconds.1) d.inSeconds.2

/-- The hundredths are rounded from a number that is next to the duration. -/
theorem hundredths_near (d : Duration) (proper : d.IsProper) (short : d.seconds < 60) :
    |(d.hundredths : ℚ) / 100 - d.amount| < 1 / 100 := by
  obtain ⟨num, den, positive, sum, place, positive', exact⟩ := exists_inSeconds d proper short
  have fractionNear := fraction_near d proper
  have sumNear : |Binary64.rounded num den - (d.seconds + d.fraction)| ≤ 1 / 2 ^ 48 := by
    rw [← sum]
    calc |Binary64.rounded num den - num / den|
      _ ≤ 2 ^ (-47 : Int) / 2 := Binary64.rounded_near num den positive (-47) place
      _ = 1 / 2 ^ 48 := by norm_num
  have near := Binary64.abs_roundDiv_sub_le (100 * d.inSeconds.1) d.inSeconds.2 positive'
  rw [← hundredths, Nat.cast_mul, mul_div_assoc, exact, Nat.cast_ofNat] at near
  rw [abs_le] at fractionNear sumNear near
  rw [abs_lt, amount]
  constructor <;> linarith

/-- Of two durations below a minute the longer one has no fewer hundredths. -/
theorem hundredths_mono (d d' : Duration) (proper : d.IsProper) (proper' : d'.IsProper)
    (short' : d'.seconds < 60) (le : d.amount ≤ d'.amount) : d.hundredths ≤ d'.hundredths := by
  have short : d.seconds < 60 := by
    rw [amount_le_iff] at le
    unfold IsProper at proper'
    omega
  obtain ⟨num, den, positive, sum, -, some, exact⟩ := exists_inSeconds d proper short
  obtain ⟨num', den', positive', sum', -, some', exact'⟩ := exists_inSeconds d' proper' short'
  have rounded : Binary64.rounded num den ≤ Binary64.rounded num' den' := by
    refine Binary64.rounded_mono num den num' den' positive positive' ?_
    rw [sum, sum']
    exact add_fraction_mono d d' proper proper' le
  refine Binary64.roundDiv_mono _ _ _ _ some some' ?_
  rw [Nat.cast_mul, Nat.cast_mul, mul_div_assoc, mul_div_assoc, exact, exact']
  exact mul_le_mul_of_nonneg_left rounded (Nat.cast_nonneg 100)

/-- From a second on there are 100 hundredths at least. -/
theorem le_hundredths (d : Duration) (proper : d.IsProper) (short : d.seconds < 60)
    (second : 1 ≤ d.seconds) : 100 ≤ d.hundredths := by
  calc 100
    _ = hundredths ⟨1, 0⟩ := by decide +kernel
    _ ≤ d.hundredths := by
      refine hundredths_mono _ d (by decide) proper short ?_
      rw [amount_le_iff]
      dsimp only
      omega

/-- Below a minute there are 6000 hundredths at most, and these are reached behind 59.995 seconds,
which is rounded down. -/
theorem hundredths_le_iff (d : Duration) (proper : d.IsProper) (short : d.seconds < 60) :
    d.hundredths ≤ 6000 ∧
      (d.hundredths ≤ 5999 ↔ ¬ (d.seconds = 59 ∧ 995000000 < d.nanoseconds)) := by
  have below : d.nanoseconds < 1000000000 := proper
  have most : d.hundredths ≤ hundredths ⟨59, 999999999⟩ :=
    hundredths_mono d _ proper (by decide) (by decide)
      ((amount_le_iff d _).mpr (by dsimp only; omega))
  refine ⟨most.trans (by decide +kernel), ?_⟩
  by_cases band : d.seconds = 59 ∧ 995000000 < d.nanoseconds
  · have reached : hundredths ⟨59, 995000001⟩ ≤ d.hundredths :=
      hundredths_mono _ d (by decide) proper short
        ((amount_le_iff _ d).mpr (by dsimp only; omega))
    have minute : hundredths ⟨59, 995000001⟩ = 6000 := by decide +kernel
    exact iff_of_false (by omega) (not_not_intro band)
  · have bounded : d.hundredths ≤ hundredths ⟨59, 995000000⟩ :=
      hundredths_mono d _ proper (by decide) (by decide)
        ((amount_le_iff d _).mpr (by dsimp only; omega))
    exact iff_of_true (bounded.trans (by decide +kernel)) band

/-! ### What is shown -/

/-- The forms of a duration, by its whole milliseconds. -/
inductive Shows (d : Duration) : Elapsed → Prop
  | milliseconds (short : d.milliseconds < 1000) :
    Shows d (.milliseconds ⟨false, d.milliseconds, 0⟩)
  | seconds (long : 1000 ≤ d.milliseconds) (short : d.milliseconds < 60000) :
    Shows d (.seconds ⟨false, d.hundredths, -2⟩)
  | minutes (long : 60000 ≤ d.milliseconds) :
    Shows d (.minutes ⟨false, d.seconds / 60, 0⟩ ⟨false, d.seconds % 60, 0⟩)

theorem exists_shows (d : Duration) :
    ∃ shown, Elapsed.ofText? d.text = some shown ∧ Shows d shown := by
  unfold text
  dsimp only
  rw [← milliseconds]
  by_cases second : d.milliseconds < 1000
  · have read := Elapsed.ofText?_join [toString d.milliseconds ++ "ms"] (by simp)
      (by simp [Elapsed.space_not_mem_toDigits])
    rw [List.map_singleton, Elapsed.quantity?_toString _ "ms" (by decide)] at read
    exact ⟨_, by rw [if_pos second]; exact read, .milliseconds second⟩
  by_cases minute : d.milliseconds < 60000
  · have read := Elapsed.ofText?_join [twoDecimals d.inSeconds.1 d.inSeconds.2 ++ "s"] (by simp)
      (by simp [space_not_mem_twoDecimals])
    rw [List.map_singleton, Elapsed.quantity?_twoDecimals _ _ "s" (by decide)] at read
    exact ⟨_, by rw [if_neg second, if_pos minute]; exact read, .seconds (by omega) minute⟩
  · have read := Elapsed.ofText?_join
      [toString (d.seconds / 60) ++ "m", toString (d.seconds % 60) ++ "s"] (by simp)
      (by simp [Elapsed.space_not_mem_toDigits])
    rw [List.map_cons, List.map_singleton, Elapsed.quantity?_toString _ "m" (by decide),
      Elapsed.quantity?_toString _ "s" (by decide)] at read
    have joined : toString (d.seconds / 60) ++ "m " ++ toString (d.seconds % 60) ++ "s" =
        Text.join " " [toString (d.seconds / 60) ++ "m", toString (d.seconds % 60) ++ "s"] := by
      rw [show "m " = "m" ++ " " from rfl]
      simp only [Text.join, String.append_assoc]
    exact ⟨_, by rw [if_neg second, if_neg minute, joined]; exact read, .minutes (by omega)⟩

/-! ### Amounts of time -/

theorem milliseconds_eq (d : Duration) :
    d.milliseconds = (d.seconds * 1000000000 + d.nanoseconds) / 1000000 := by
  unfold milliseconds
  omega

theorem milliseconds_near (d : Duration) :
    (d.milliseconds : ℚ) / 1000 ≤ d.amount ∧ d.amount < d.milliseconds / 1000 + 1 / 1000 := by
  have parts := Nat.div_add_mod (d.seconds * 1000000000 + d.nanoseconds) 1000000
  have rest := Nat.mod_lt (d.seconds * 1000000000 + d.nanoseconds) (y := 1000000) (by decide)
  rw [← milliseconds_eq] at parts
  generalize (d.seconds * 1000000000 + d.nanoseconds) % 1000000 = r at parts rest
  have parts' : (1000000 : ℚ) * d.milliseconds + r = d.seconds * 1000000000 + d.nanoseconds := by
    exact_mod_cast parts
  have rest' : (r : ℚ) < 1000000 := by exact_mod_cast rest
  have restLow : (0 : ℚ) ≤ r := Nat.cast_nonneg r
  unfold amount
  constructor <;> linarith

theorem milliseconds_mono (d d' : Duration) (le : d.amount ≤ d'.amount) :
    d.milliseconds ≤ d'.milliseconds := by
  rw [milliseconds_eq, milliseconds_eq]
  exact Nat.div_le_div_right ((amount_le_iff d d').mp le)

/-- The nanoseconds do not reach the next second. -/
theorem le_milliseconds_iff (d : Duration) (proper : d.IsProper) (k : Nat) :
    k * 1000 ≤ d.milliseconds ↔ k ≤ d.seconds := by
  unfold IsProper at proper
  unfold milliseconds
  omega

theorem milliseconds_lt_iff (d : Duration) (proper : d.IsProper) (k : Nat) :
    d.milliseconds < k * 1000 ↔ d.seconds < k :=
  lt_iff_lt_of_le_iff_le (le_milliseconds_iff d proper k)

/-! What each form shows, in seconds. -/

theorem amount_milliseconds (n : Nat) :
    Elapsed.amount (.milliseconds ⟨false, n, 0⟩) = n / 1000 := by
  rw [Elapsed.amount, DecimalLiteral.rational_whole]

theorem amount_hundredths (n : Nat) : Elapsed.amount (.seconds ⟨false, n, -2⟩) = n / 100 := by
  rw [Elapsed.amount, DecimalLiteral.rational_hundredths]

theorem amount_minutes (seconds : Nat) :
    Elapsed.amount (.minutes ⟨false, seconds / 60, 0⟩ ⟨false, seconds % 60, 0⟩) = seconds := by
  have parts : (60 : ℚ) * (seconds / 60 : Nat) + (seconds % 60 : Nat) = seconds := by
    exact_mod_cast Nat.div_add_mod seconds 60
  rw [Elapsed.amount, DecimalLiteral.rational_whole, DecimalLiteral.rational_whole, parts]

/-- The amount that is shown is less than a unit of its last place away. -/
theorem Shows.near (d : Duration) (shown : Elapsed) (form : Shows d shown) (proper : d.IsProper) :
    |shown.amount - d.amount| < shown.place := by
  cases form with
  | milliseconds short =>
    obtain ⟨low, high⟩ := milliseconds_near d
    rw [amount_milliseconds, Elapsed.place, abs_lt]
    constructor <;> linarith
  | seconds long short =>
    rw [amount_hundredths]
    exact hundredths_near d proper ((milliseconds_lt_iff d proper 60).mp short)
  | minutes long =>
    have none : (0 : ℚ) ≤ d.nanoseconds := Nat.cast_nonneg _
    have below : (d.nanoseconds : ℚ) < 1000000000 := by exact_mod_cast proper
    rw [amount_minutes, Elapsed.place, Duration.amount, abs_lt]
    constructor <;> linarith

theorem Shows.fitsForm_iff (d : Duration) (shown : Elapsed) (form : Shows d shown)
    (proper : d.IsProper) :
    shown.FitsForm ↔ ¬ (d.seconds = 59 ∧ 995000000 < d.nanoseconds) := by
  cases form with
  | milliseconds short =>
    have fits : (d.milliseconds : ℚ) ≤ 999 := by exact_mod_cast Nat.le_of_lt_succ short
    have := (milliseconds_lt_iff d proper 1).mp short
    rw [Elapsed.FitsForm, DecimalLiteral.rational_whole]
    exact iff_of_true fits (by omega)
  | seconds long short =>
    have below := (milliseconds_lt_iff d proper 60).mp short
    rw [← (hundredths_le_iff d proper below).2, Elapsed.FitsForm,
      DecimalLiteral.rational_hundredths, div_le_iff₀ (by norm_num)]
    norm_num
  | minutes long =>
    have := (le_milliseconds_iff d proper 60).mp long
    exact iff_of_true ⟨d.seconds % 60, DecimalLiteral.rational_whole _, by omega⟩ (by omega)

/-- A longer duration is not shown as a smaller amount. Of two forms the smaller one ends at the
second or the minute with which the larger one begins. -/
theorem Shows.amount_le (d d' : Duration) (shown shown' : Elapsed) (form : Shows d shown)
    (form' : Shows d' shown') (proper : d.IsProper) (proper' : d'.IsProper)
    (le : d.amount ≤ d'.amount) : shown.amount ≤ shown'.amount := by
  have counts := milliseconds_mono d d' le
  cases form with
  | milliseconds short =>
    have most : (d.milliseconds : ℚ) ≤ 999 := by exact_mod_cast Nat.le_of_lt_succ short
    rw [amount_milliseconds]
    cases form' with
    | milliseconds short' =>
      have more : (d.milliseconds : ℚ) ≤ d'.milliseconds := by exact_mod_cast counts
      rw [amount_milliseconds]
      linarith
    | seconds long' short' =>
      have second := (le_milliseconds_iff d' proper' 1).mp long'
      have below := (milliseconds_lt_iff d' proper' 60).mp short'
      have least : (100 : ℚ) ≤ d'.hundredths := by
        exact_mod_cast le_hundredths d' proper' below second
      rw [amount_hundredths]
      linarith
    | minutes long' =>
      have least : (60 : ℚ) ≤ d'.seconds := by
        exact_mod_cast (le_milliseconds_iff d' proper' 60).mp long'
      rw [amount_minutes]
      linarith
  | seconds long short =>
    rw [amount_hundredths]
    cases form' with
    | milliseconds short' => omega
    | seconds long' short' =>
      have below := (milliseconds_lt_iff d' proper' 60).mp short'
      have more : (d.hundredths : ℚ) ≤ d'.hundredths := by
        exact_mod_cast hundredths_mono d d' proper proper' below le
      rw [amount_hundredths]
      linarith
    | minutes long' =>
      have below := (milliseconds_lt_iff d proper 60).mp short
      have most : (d.hundredths : ℚ) ≤ 6000 := by
        exact_mod_cast (hundredths_le_iff d proper below).1
      have least : (60 : ℚ) ≤ d'.seconds := by
        exact_mod_cast (le_milliseconds_iff d' proper' 60).mp long'
      rw [amount_minutes]
      linarith
  | minutes long =>
    cases form' with
    | milliseconds short' => omega
    | seconds long' short' => omega
    | minutes long' =>
      rw [amount_le_iff] at le
      unfold IsProper at proper proper'
      have more : d.seconds ≤ d'.seconds := by omega
      rw [amount_minutes, amount_minutes]
      exact_mod_cast more

/-- A proper duration is read back as an amount of time that is less than a unit of its last place
away. The amount stays below the next larger unit except behind 59.995 seconds, where it is written
as a full minute in seconds. A longer duration is read back as no smaller amount. -/
theorem text_fits_form_iff (d d' : Duration) (proper : d.IsProper) (proper' : d'.IsProper) :
    ∃ shown shown', Elapsed.ofText? d.text = some shown ∧ Elapsed.ofText? d'.text = some shown' ∧
      |shown.amount - d.amount| < shown.place ∧
      (shown.FitsForm ↔ ¬ (d.seconds = 59 ∧ 995000000 < d.nanoseconds)) ∧
      (d.amount ≤ d'.amount → shown.amount ≤ shown'.amount) := by
  obtain ⟨shown, read, form⟩ := exists_shows d
  obtain ⟨shown', read', form'⟩ := exists_shows d'
  exact ⟨shown, shown', read, read', form.near d shown proper, form.fitsForm_iff d shown proper,
    form.amount_le d d' shown shown' form' proper proper'⟩

/-- The last duration below the band and the first one in it. -/
theorem text_fits_form_iff_below :
    IsProper ⟨59, 995000000⟩ ∧ IsProper ⟨59, 995000001⟩ ∧
      ∃ shown shown', Elapsed.ofText? (text ⟨59, 995000000⟩) = some shown ∧
        Elapsed.ofText? (text ⟨59, 995000001⟩) = some shown' ∧
        |shown.amount - amount ⟨59, 995000000⟩| < shown.place ∧ shown.FitsForm ∧
        shown.amount ≤ shown'.amount := by
  have proper : IsProper ⟨59, 995000000⟩ := by decide
  have proper' : IsProper ⟨59, 995000001⟩ := by decide
  obtain ⟨shown, shown', read, read', near, fits, monotone⟩ :=
    text_fits_form_iff ⟨59, 995000000⟩ ⟨59, 995000001⟩ proper proper'
  refine ⟨proper, proper', shown, shown', read, read', near, fits.mpr (by decide), monotone ?_⟩
  exact (amount_le_iff _ _).mpr (by decide)

/-- A millisecond before the minute the seconds are written as 60. -/
theorem text_reaches_minute :
    text ⟨59, 999000000⟩ = "60.00s" ∧
      ∃ shown, Elapsed.ofText? (text ⟨59, 999000000⟩) = some shown ∧ ¬ shown.FitsForm := by
  refine ⟨by decide +kernel, .seconds ⟨false, 6000, -2⟩, by decide +kernel, ?_⟩
  rw [Elapsed.FitsForm, DecimalLiteral.rational_hundredths]
  norm_num

end Duration

end TsWorkshop.Measure
