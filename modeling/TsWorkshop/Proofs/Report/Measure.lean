import TsWorkshop.Number.Literal
import TsWorkshop.Proofs.Number.Binary64
import TsWorkshop.Proofs.Text.Pieces
import TsWorkshop.Report.Measure

/-!
Numbers with two decimals. They are read back as the hundredths that were written
(`ofChars?_twoDecimals`), which depend on the ratio alone (`twoDecimals_mul_right`); a whole number
of 53 bits loses nothing on its way to them (`exists_nearest_one`).
-/

namespace TsWorkshop

/-! ### Reading numbers -/

namespace Text

theorem digitsValue_append (start : Nat) (front back : List Char) :
    digitsValue start (front ++ back) = digitsValue (digitsValue start front) back := by
  unfold digitsValue
  exact List.foldl_append

theorem toList_toString (n : Nat) : (toString n).toList = Nat.toDigits 10 n := by
  rw [Nat.toString_eq_ofList_toDigits, String.toList_ofList]

/-- Below 100 a number has two digits, a zero in front among them. -/
theorem toList_padStart (n : Nat) (small : n < 100) :
    (padStart 2 '0' (toString n)).toList = [Nat.digitChar (n / 10), Nat.digitChar (n % 10)] := by
  have all : ∀ k : Fin 100, (padStart 2 '0' (toString k.val)).toList =
      [Nat.digitChar (k.val / 10), Nat.digitChar (k.val % 10)] := by
    decide +kernel
  exact all ⟨n, small⟩

theorem digitValue?_digitChar (n : Nat) (digit : n < 10) :
    digitValue? (Nat.digitChar n) = some n := by
  have all : ∀ k : Fin 10, digitValue? (Nat.digitChar k.val) = some k.val := by decide
  exact all ⟨n, digit⟩

theorem isDigit_digitChar (n : Nat) (digit : n < 10) : (Nat.digitChar n).isDigit = true := by
  have all : ∀ k : Fin 10, (Nat.digitChar k.val).isDigit = true := by decide
  exact all ⟨n, digit⟩

end Text

namespace DecimalLiteral

theorem splitSign_of_isDigit (cs : List Char) (some_ : cs ≠ [])
    (digits : ∀ c ∈ cs, c.isDigit = true) (rest : List Char) :
    splitSign (cs ++ rest) = (false, cs ++ rest) := by
  cases cs with
  | nil => exact absurd rfl some_
  | cons c cs =>
    have digit := digits c (List.mem_cons_self ..)
    unfold splitSign
    split
    · rename_i minus
      rw [(List.cons.inj minus).1] at digit
      exact absurd digit (by decide)
    · rename_i plus
      rw [(List.cons.inj plus).1] at digit
      exact absurd digit (by decide)
    · rfl

theorem takeWhile_digits (cs rest : List Char) (digits : ∀ c ∈ cs, c.isDigit = true)
    (stop : rest.head?.all (fun c => !c.isDigit) = true) :
    (cs ++ rest).takeWhile Char.isDigit = cs ∧ (cs ++ rest).dropWhile Char.isDigit = rest := by
  rw [List.takeWhile_append_of_pos digits, List.dropWhile_append_of_pos digits]
  cases rest with
  | nil => simp
  | cons c rest =>
    have other : c.isDigit = false := by simpa using stop
    simp [other]

/-- A whole number is read as such. -/
theorem ofChars?_toString (n : Nat) :
    ofChars? (toString n).toList = some ⟨false, n, 0⟩ := by
  have digits : ∀ c ∈ Nat.toDigits 10 n, c.isDigit = true := Text.isDigit_of_mem_toDigits n
  have unsigned := splitSign_of_isDigit _ Nat.toDigits_ne_nil digits []
  obtain ⟨whole, behind⟩ := takeWhile_digits _ [] digits rfl
  rw [List.append_nil] at unsigned whole behind
  rw [Text.toList_toString]
  unfold ofChars?
  rw [unsigned]
  dsimp only
  rw [whole, behind]
  simp [exponentOf, Text.digitsValue_toDigits]

end DecimalLiteral

namespace Measure

/-- A ratio with two decimals is a number of hundredths, in digits around a point. -/
theorem exists_toList_twoDecimals (num den : Nat) :
    ∃ whole fraction, (twoDecimals num den).toList = whole ++ '.' :: fraction ∧ whole ≠ [] ∧
      fraction.length = 2 ∧ (∀ c ∈ whole ++ fraction, c.isDigit = true) ∧
      Text.digitsValue 0 (whole ++ fraction) = Binary64.roundDiv (100 * num) den := by
  generalize hundredths : Binary64.roundDiv (100 * num) den = h
  have tens : h % 100 / 10 < 10 := by omega
  have ones : h % 100 % 10 < 10 := by omega
  refine ⟨Nat.toDigits 10 (h / 100), [Nat.digitChar (h % 100 / 10), Nat.digitChar (h % 100 % 10)],
    ?_, Nat.toDigits_ne_nil, rfl, fun c inside => ?_, ?_⟩
  · unfold twoDecimals
    rw [hundredths, String.toList_append, String.toList_append, Text.toList_toString,
      Text.toList_padStart _ (by omega)]
    simp
  · rcases List.mem_append.mp inside with whole | fraction
    · exact Text.isDigit_of_mem_toDigits (h / 100) c whole
    · rcases List.mem_pair.mp fraction with rfl | rfl
      · exact Text.isDigit_digitChar _ tens
      · exact Text.isDigit_digitChar _ ones
  · rw [Text.digitsValue_append, Text.digitsValue_toDigits]
    simp only [Text.digitsValue, List.foldl_cons, List.foldl_nil, Text.digitValue?_digitChar _ tens,
      Text.digitValue?_digitChar _ ones, Option.getD_some]
    omega

/-- A text with two decimals is read as the hundredths that were written. -/
theorem ofChars?_twoDecimals (num den : Nat) :
    DecimalLiteral.ofChars? (twoDecimals num den).toList =
      some ⟨false, Binary64.roundDiv (100 * num) den, -2⟩ := by
  obtain ⟨whole, fraction, chars, some_, two, digits, value⟩ := exists_toList_twoDecimals num den
  have wholeDigits : ∀ c ∈ whole, c.isDigit = true := fun c inside =>
    digits c (List.mem_append_left _ inside)
  obtain ⟨front, behind⟩ := DecimalLiteral.takeWhile_digits whole ('.' :: fraction) wholeDigits rfl
  obtain ⟨decimals, ending⟩ := DecimalLiteral.takeWhile_digits fraction []
    (fun c inside => digits c (List.mem_append_right _ inside)) rfl
  rw [List.append_nil] at decimals ending
  rw [chars]
  unfold DecimalLiteral.ofChars?
  rw [DecimalLiteral.splitSign_of_isDigit whole some_ wholeDigits]
  dsimp only
  rw [front, behind]
  simp [decimals, ending, value, two, some_, DecimalLiteral.exponentOf]

/-- There is no blank in a text with two decimals. -/
theorem space_not_mem_twoDecimals (num den : Nat) : ' ' ∉ (twoDecimals num den).toList := by
  obtain ⟨whole, fraction, chars, -, -, digits, -⟩ := exists_toList_twoDecimals num den
  have blank : ' ' ∉ whole ++ fraction := fun inside => absurd (digits ' ' inside) (by decide)
  rw [List.mem_append, not_or] at blank
  simp [chars, blank]

theorem twoDecimals_mul_right (num den c : Nat) (positive : 0 < c) :
    twoDecimals (num * c) (den * c) = twoDecimals num den := by
  unfold twoDecimals
  rw [← Nat.mul_assoc, Binary64.roundDiv_mul_right _ _ c positive]

/-- A whole number of at most 53 bits is its own nearest floating-point number. -/
theorem exists_nearest_one (n : Nat) (small : n < 2 ^ 53) :
    ∃ den, 0 < den ∧ nearest n 1 = (n * den, den) := by
  obtain ⟨x, found, positive, same⟩ := Binary64.exists_ofRatio_one n small
  refine ⟨x.ratio.2, positive, ?_⟩
  unfold nearest
  rw [found, ← same]

end Measure

end TsWorkshop
