import TsWorkshop.Json.Printer
import TsWorkshop.Json.Source

/-!
A text between quotes is read back as the text (`ofText_quoted`), and it stands on one line
(`feed_not_mem_quoted`). The induction is on the characters: what is written for one of them
(`Spelt`) is read in one step.
-/

namespace TsWorkshop

namespace Json

/-- How a character is written between quotes: as itself, by a letter, or by its code. -/
inductive Spelt (c : Char) : List Char → Prop
  | plain (quote : c ≠ '"') (backslash : c ≠ '\\') (printable : 0x20 ≤ c.toNat) : Spelt c [c]
  | letter (d : Char) (escape : Source.simpleEscape? d = some c) (ne : d ≠ 'u') :
      Spelt c ['\\', d]
  | code (control : c.toNat < 0x20) : Spelt c ('\\' :: 'u' :: '0' :: '0' :: Text.hex 2 c.toNat)

theorem Spelt.length_pos {c : Char} {chars : List Char} (h : Spelt c chars) : 0 < chars.length := by
  cases h <;> simp

/-- No line break is written as itself. -/
theorem Spelt.feed_not_mem {c : Char} {chars : List Char} (h : Spelt c chars) : '\n' ∉ chars := by
  cases h with
  | plain quote backslash printable =>
    rintro inside
    obtain rfl := List.mem_singleton.mp inside
    exact absurd printable (by decide)
  | letter d escape ne =>
    intro inside
    have same : '\n' = d := by simpa using inside
    subst same
    cases escape
  | code control =>
    have noDigit : ∀ n < 16, '\n' ≠ Text.hexDigit n := by decide
    simp [Text.hex, noDigit (c.toNat / 16 % 16) (by omega), noDigit (c.toNat % 16) (by omega)]

theorem spelt_escaped (c : Char) : Spelt c (escaped c) := by
  unfold escaped
  split
  · exact .letter '"' rfl (by decide)
  · exact .letter '\\' rfl (by decide)
  · exact .letter 'b' rfl (by decide)
  · exact .letter 'f' rfl (by decide)
  · exact .letter 'n' rfl (by decide)
  · exact .letter 'r' rfl (by decide)
  · exact .letter 't' rfl (by decide)
  · rename_i quote backslash _ _ _ _ _
    split
    · rename_i control
      exact .code control
    · rename_i printable
      exact .plain quote backslash (Nat.le_of_not_lt printable)

end Json

namespace Source

open Json (Spelt)

/-! ### One character -/

theorem hexValue?_hexDigit (n : Nat) (h : n < 16) :
    Text.hexValue? (Text.hexDigit n) = some n := by
  revert n
  decide

/-- The digits of a byte are read as the byte. -/
theorem hexCode_hex (n : Nat) (h : n < 256) (rest : List Char) :
    hexCode ('0' :: '0' :: (Text.hex 2 n ++ rest)) = .ok (n, rest) := by
  have high := hexValue?_hexDigit (n / 16 % 16) (by omega)
  have low := hexValue?_hexDigit (n % 16) (by omega)
  have zero : Text.hexValue? '0' = some 0 := by decide
  have value : ((0 * 16 + 0) * 16 + n / 16 % 16) * 16 + n % 16 = n := by omega
  simp only [Text.hex, List.nil_append, List.cons_append, hexCode, zero, high, low, value]

theorem unicodeEscape_of_lt (n : Nat) (h : n < 0x20) (rest : List Char) :
    unicodeEscape n rest = .ok (Char.ofNat n, rest) := by
  have noTrailing : isTrailing n = false := by simp [isTrailing]; omega
  have noLeading : isLeading n = false := by simp [isLeading]; omega
  simp [unicodeEscape, noTrailing, noLeading]

/-- What is written for a character is read in one step. -/
theorem stringContent_spelt (fuel : Nat) (acc : List Char) (c : Char) (chars rest : List Char)
    (h : Spelt c chars) :
    stringContent (fuel + 1) acc (chars ++ rest) = stringContent fuel (c :: acc) rest := by
  cases h with
  | plain quote backslash printable =>
    rw [List.singleton_append, stringContent, if_neg (Nat.not_lt.mpr printable)]
    · exact quote
    · exact fun same _ => backslash same
    · exact fun _ same _ => backslash same
    · exact fun _ _ same _ => backslash same
  | letter d escape ne =>
    rw [List.cons_append, List.singleton_append, stringContent, escape]
    exact ne
  | code control =>
    have code := hexCode_hex c.toNat (by omega) rest
    have char := unicodeEscape_of_lt c.toNat control rest
    rw [Char.ofNat_toNat] at char
    simp only [List.cons_append, stringContent]
    rw [code]
    simp only [bind, Except.bind, char]

theorem skipString_spelt (fuel : Nat) (c : Char) (chars rest : List Char) (h : Spelt c chars) :
    skipString (fuel + 1) (chars ++ rest) = skipString fuel rest := by
  cases h with
  | plain quote backslash printable =>
    rw [List.singleton_append, skipString, if_neg (Nat.not_lt.mpr printable)]
    · exact quote
    · exact fun same _ => backslash same
    · exact fun _ same _ => backslash same
    · exact fun _ _ same _ => backslash same
  | letter d escape ne =>
    rw [List.cons_append, List.singleton_append, skipString, escape]
    · rfl
    · exact ne
  | code control =>
    have code := hexCode_hex c.toNat (by omega) rest
    simp only [List.cons_append, skipString]
    rw [code]
    rfl

/-! ### A whole text -/

theorem stringContent_quoted (fuel : Nat) (acc cs rest : List Char) (enough : cs.length < fuel) :
    stringContent fuel acc (cs.flatMap Json.escaped ++ '"' :: rest) =
      .ok (String.ofList (acc.reverse ++ cs)) := by
  induction cs generalizing fuel acc with
  | nil =>
    obtain ⟨fuel, rfl⟩ := Nat.exists_eq_add_one_of_ne_zero (Nat.ne_of_gt enough)
    simp [stringContent]
  | cons c cs ih =>
    obtain ⟨fuel, rfl⟩ := Nat.exists_eq_add_one_of_ne_zero (Nat.ne_of_gt (Nat.zero_lt_of_lt enough))
    rw [List.flatMap_cons, List.append_assoc,
      stringContent_spelt fuel acc c _ _ (Json.spelt_escaped c),
      ih fuel (c :: acc) (Nat.lt_of_succ_lt_succ enough)]
    simp

theorem skipString_quoted (fuel : Nat) (cs rest : List Char) (enough : cs.length < fuel) :
    skipString fuel (cs.flatMap Json.escaped ++ '"' :: rest) = .ok rest := by
  induction cs generalizing fuel with
  | nil =>
    obtain ⟨fuel, rfl⟩ := Nat.exists_eq_add_one_of_ne_zero (Nat.ne_of_gt enough)
    rfl
  | cons c cs ih =>
    obtain ⟨fuel, rfl⟩ := Nat.exists_eq_add_one_of_ne_zero (Nat.ne_of_gt (Nat.zero_lt_of_lt enough))
    rw [List.flatMap_cons, List.append_assoc, skipString_spelt fuel c _ _ (Json.spelt_escaped c)]
    exact ih fuel (Nat.lt_of_succ_lt_succ enough)

/-- No character is written with fewer characters. -/
theorem length_le_flatMap_escaped (cs : List Char) :
    cs.length ≤ (cs.flatMap Json.escaped).length := by
  induction cs with
  | nil => exact Nat.le_refl 0
  | cons c cs ih =>
    have some := (Json.spelt_escaped c).length_pos
    rw [List.flatMap_cons, List.length_append, List.length_cons]
    omega

theorem lexString_quoted (cs rest : List Char) :
    lexString (cs.flatMap Json.escaped ++ '"' :: rest) = .ok (.ok (String.ofList cs), rest) := by
  have enough : cs.length < (cs.flatMap Json.escaped ++ '"' :: rest).length + 1 := by
    have := length_le_flatMap_escaped cs
    simp only [List.length_append]
    omega
  simp only [lexString, skipString_quoted _ cs rest enough,
    stringContent_quoted _ [] cs rest enough, List.reverse_nil, List.nil_append]

end Source

namespace Json

/-- A text between quotes is read back. -/
theorem ofText_quoted (s : String) : Json.ofText (quoted s) = .ok (.str s) := by
  have lexed := Source.lexString_quoted s.toList []
  have chars : (quoted s).toList = '"' :: (s.toList.flatMap escaped ++ ['"']) := by
    simp [quoted, quotedChars]
  have source : Source.ofText (quoted s) = (.str (.ok s), false) := by
    unfold Source.ofText
    rw [chars]
    simp [Source.lexValue, Source.dropGap, Source.isGap, lexed]
  unfold Json.ofText
  rw [source]
  rfl

/-- A text between quotes has no line break in it. -/
theorem feed_not_mem_quoted (s : String) : '\n' ∉ (quoted s).toList := by
  have inside : '\n' ∉ s.toList.flatMap escaped := by
    intro h
    obtain ⟨c, -, inChar⟩ := List.mem_flatMap.mp h
    exact (spelt_escaped c).feed_not_mem inChar
  simpa [quoted, quotedChars] using inside

end Json

end TsWorkshop
