import Mathlib.Data.List.Lex
import Mathlib.Tactic.SplitIfs

/-!
The order of texts and the order of their bytes. Texts are compared character by character. Their
bytes in UTF-8 compare in the same way (`bytes_lt_bytes`): of two characters the larger one has more
bytes and a larger first byte, or as many bytes that are larger in the first place where they
differ.
-/

namespace TsWorkshop.Text

/-- The bytes of a text in UTF-8. -/
def bytes (s : String) : List UInt8 := s.toUTF8.data.toList

/-- The bytes of a code point in UTF-8, as numbers. -/
def octets (n : Nat) : List Nat :=
  if n ≤ 127 then [n]
  else if n ≤ 2047 then [n / 64 % 32 + 192, n % 64 + 128]
  else if n ≤ 65535 then [n / 4096 % 16 + 224, n / 64 % 64 + 128, n % 64 + 128]
  else [n / 262144 % 8 + 240, n / 4096 % 64 + 128, n / 64 % 64 + 128, n % 64 + 128]

theorem utf8EncodeChar_eq (c : Char) :
    String.utf8EncodeChar c = (octets c.toNat).map UInt8.ofNat := by
  unfold String.utf8EncodeChar octets
  simp only [show c.toNat = c.val.toNat from rfl]
  split_ifs <;> rfl

theorem bytes_eq (s : String) :
    bytes s = (s.toList.flatMap fun c => octets c.toNat).map UInt8.ofNat := by
  have encoded : s.toUTF8 = (s.toList.flatMap String.utf8EncodeChar).toByteArray := by
    conv_lhs => rw [← String.ofList_toList (s := s)]
    exact String.toByteArray_ofList
  have eachChar : String.utf8EncodeChar = fun c => (octets c.toNat).map UInt8.ofNat :=
    funext utf8EncodeChar_eq
  rw [bytes, encoded, List.toList_data_toByteArray, List.map_flatMap, eachChar]

theorem toNat_lt_unicode (c : Char) : c.toNat < 1114112 := by
  rcases c.valid with low | high
  · exact Nat.lt_trans low (by decide)
  · exact high.2

/-! ### Code points -/

/-- A number below `64 ^ 4` in four digits to the base 64. -/
theorem exists_digits (n : Nat) :
    ∃ a b c d, n / 262144 = a ∧ n / 4096 % 64 = b ∧ n / 64 % 64 = c ∧ n % 64 = d ∧
      b < 64 ∧ c < 64 ∧ d < 64 ∧ n = 262144 * a + 4096 * b + 64 * c + d := by
  have twice : n / 64 / 64 = n / 4096 := Nat.div_div_eq_div_mul n 64 64
  have thrice : n / 4096 / 64 = n / 262144 := Nat.div_div_eq_div_mul n 4096 64
  exact ⟨_, _, _, _, rfl, rfl, rfl, rfl, by omega, by omega, by omega, by omega⟩

theorem octets_of_lt (n : Nat) (h : 65535 < n) :
    octets n = [n / 262144 % 8 + 240, n / 4096 % 64 + 128, n / 64 % 64 + 128, n % 64 + 128] := by
  rw [octets, if_neg (by omega), if_neg (by omega), if_neg (by omega)]

theorem octets_lt_octets (m n : Nat) (h : m < n) (bound : n < 1114112) (xs ys : List Nat) :
    octets m ++ xs < octets n ++ ys := by
  rcases Nat.lt_or_ge 65535 m with four | fewer
  · obtain ⟨a, b, c, d, ha, hb, hc, hd, _, _, _, hm⟩ := exists_digits m
    obtain ⟨a', b', c', d', ha', hb', hc', hd', _, _, _, hn⟩ := exists_digits n
    rw [octets_of_lt m four, octets_of_lt n (Nat.lt_trans four h), ha, hb, hc, hd, ha', hb', hc',
      hd']
    simp only [List.cons_append, List.nil_append, List.cons_lt_cons_iff]
    clear ha hb hc hd ha' hb' hc' hd'
    omega
  · unfold octets
    split_ifs <;> simp only [List.cons_append, List.nil_append, List.cons_lt_cons_iff] <;> omega

theorem octets_ne_nil (n : Nat) : octets n ≠ [] := by
  unfold octets
  split_ifs <;> simp

theorem lt_of_mem_octets (n byte : Nat) (bound : n < 1114112) (h : byte ∈ octets n) :
    byte < 256 := by
  unfold octets at h
  split_ifs at h <;> simp only [List.mem_cons, List.not_mem_nil, or_false] at h <;> omega

/-! ### Texts -/

theorem flatMap_octets_lt (cs ds : List Char) (h : cs < ds) :
    (cs.flatMap fun c => octets c.toNat) < ds.flatMap fun c => octets c.toNat := by
  induction h with
  | nil =>
    rename_i d ds
    rw [List.flatMap_cons, List.flatMap_nil]
    cases first : octets d.toNat with
    | nil => exact absurd first (octets_ne_nil d.toNat)
    | cons byte more => exact List.nil_lt_cons byte _
  | cons _ ih => exact List.append_left_lt ih
  | rel smaller =>
    rename_i c cs d ds
    exact octets_lt_octets c.toNat d.toNat smaller (toNat_lt_unicode d) _ _

/-- Numbers that are bytes compare as bytes do. -/
theorem map_ofNat_lt (as bs : List Nat) (left : ∀ a ∈ as, a < 256) (right : ∀ b ∈ bs, b < 256)
    (h : as < bs) : as.map UInt8.ofNat < bs.map UInt8.ofNat := by
  induction h with
  | nil => exact List.nil_lt_cons _ _
  | cons _ ih =>
    rw [List.map_cons, List.map_cons, List.cons_lt_cons_iff]
    exact Or.inr ⟨rfl, ih (fun a inside => left a (List.mem_cons_of_mem _ inside))
      fun b inside => right b (List.mem_cons_of_mem _ inside)⟩
  | rel smaller =>
    rename_i a as b bs
    rw [List.map_cons, List.map_cons, List.cons_lt_cons_iff]
    refine Or.inl ?_
    rw [UInt8.lt_iff_toNat_lt, UInt8.toNat_ofNat_of_lt' (left a (by simp)),
      UInt8.toNat_ofNat_of_lt' (right b (by simp))]
    exact smaller

/-- A text that comes before another one does so by its bytes. -/
theorem bytes_lt_bytes (s t : String) (h : s < t) : bytes s < bytes t := by
  have areBytes : ∀ text : String, ∀ byte ∈ text.toList.flatMap fun c => octets c.toNat,
      byte < 256 := by
    intro text byte inside
    obtain ⟨c, -, inChar⟩ := List.mem_flatMap.mp inside
    exact lt_of_mem_octets c.toNat byte (toNat_lt_unicode c) inChar
  rw [bytes_eq, bytes_eq]
  exact map_ofNat_lt _ _ (areBytes s) (areBytes t) (flatMap_octets_lt _ _ (String.lt_iff.mp h))

end TsWorkshop.Text
