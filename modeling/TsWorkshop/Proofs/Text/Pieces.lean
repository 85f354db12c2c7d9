import Mathlib.Data.List.TakeWhile
import TsWorkshop.Proofs.FileSystem.Path

/-!
Texts that are put together from pieces, and what is found in them again: a prefix
(`stripStart_append`), the pieces between separators (`split_join`), the lines (`linesOf_join`), a
line without the blanks around it (`trimBlank_indented`) and a number in decimal digits
(`digitsValue_toDigits`).
-/

namespace TsWorkshop.Text

/-! ### Prefixes -/

theorem stripStart_append (start rest : List Char) :
    stripStart start (start ++ rest) = some rest := by
  induction start with
  | nil => rfl
  | cons c start ih => simp [stripStart, ih]

theorem eq_append_of_stripStart (start cs rest : List Char) (h : stripStart start cs = some rest) :
    cs = start ++ rest := by
  induction start generalizing cs with
  | nil => exact Option.some.inj h
  | cons p start ih =>
    cases cs with
    | nil => cases h
    | cons c cs =>
      unfold stripStart at h
      split at h
      · rename_i same
        rw [same, ih cs h, List.cons_append]
      · cases h

theorem stripStart_eq_some_iff (start cs rest : List Char) :
    stripStart start cs = some rest ↔ cs = start ++ rest := by
  refine ⟨eq_append_of_stripStart start cs rest, ?_⟩
  rintro rfl
  exact stripStart_append start rest

theorem stripStart?_append (start rest : String) :
    stripStart? start (start ++ rest) = some rest := by
  rw [stripStart?, String.toList_append, stripStart_append, Option.map_some, String.ofList_toList]

/-- A mark is found behind a piece that does not hold its first character. -/
theorem infix_of_infix_append (c : Char) (mark piece cs : List Char) (fresh : c ∉ piece)
    (h : c :: mark <:+: piece ++ cs) : c :: mark <:+: cs := by
  obtain ⟨before, after, same⟩ := h
  rw [List.append_assoc, List.cons_append] at same
  rcases List.append_eq_append_iff.mp same with ⟨more, inPiece, behind⟩ | ⟨more, -, inRest⟩
  · cases more with
    | nil => exact ⟨[], after, by simpa using behind⟩
    | cons d more =>
      obtain ⟨rfl, -⟩ := List.cons.inj behind
      simp [inPiece] at fresh
  · exact ⟨more, after, by simp [inRest]⟩

/-! ### Pieces -/

theorem join_nothing_cons (piece : String) (more : List String) :
    join "" (piece :: more) = piece ++ join "" more := by
  cases more <;> simp [join]

theorem join_cons (sep piece : String) (more : List String) (some : more ≠ []) :
    join sep (piece :: more) = piece ++ sep ++ join sep more := by
  cases more with
  | nil => exact absurd rfl some
  | cons next more => rfl

theorem join_append_left (sep left piece : String) (more : List String) :
    join sep ((left ++ piece) :: more) = left ++ join sep (piece :: more) := by
  cases more <;> simp [join, String.append_assoc]

theorem join_append (sep : String) (front back : List String) (someFront : front ≠ [])
    (someBack : back ≠ []) : join sep (front ++ back) = join sep front ++ sep ++ join sep back := by
  induction front with
  | nil => exact absurd rfl someFront
  | cons piece front ih =>
    cases front with
    | nil => exact join_cons sep piece back someBack
    | cons next front =>
      rw [List.cons_append, join_cons sep piece _ (by simp), ih (by simp),
        join_cons sep piece (next :: front) (by simp)]
      simp [String.append_assoc]

/-- Pieces that were put together before are put together anew. -/
theorem join_nested (sep : String) (front inner back : List String) (some : inner ≠ []) :
    join sep (front ++ [join sep inner] ++ back) = join sep (front ++ inner ++ back) := by
  have behind : join sep (join sep inner :: back) = join sep (inner ++ back) := by
    cases back with
    | nil => rw [List.append_nil]; rfl
    | cons next back =>
      rw [join_cons _ _ _ (by simp), join_append sep inner _ some (by simp)]
  rw [List.append_assoc, List.append_assoc, List.singleton_append]
  cases front with
  | nil => exact behind
  | cons piece front =>
    rw [join_append sep _ _ (by simp) (by simp), join_append sep _ _ (by simp) (by simp [some]),
      behind]

/-- Texts without the separator are found again between separators. -/
theorem split_join (sep : Char) (pieces : List String) (some : pieces ≠ [])
    (h : ∀ piece ∈ pieces, sep ∉ piece.toList) :
    Text.split sep (join (String.singleton sep) pieces) = pieces := by
  have chars : ∀ pieces : List String, (join (String.singleton sep) pieces).toList =
      joinChars sep (pieces.map String.toList) := by
    intro pieces
    induction pieces with
    | nil => rfl
    | cons piece more ih =>
      cases more with
      | nil => rfl
      | cons next more =>
        rw [join_cons _ _ _ (by simp), String.toList_append, String.toList_append, ih]
        simp [joinChars]
  have found := splitChars_joinChars sep (pieces.map String.toList) (by simpa using some)
    (by simpa using h)
  rw [Text.split, chars, found, List.map_map]
  exact (List.map_congr_left fun piece _ => String.ofList_toList).trans (List.map_id _)

/-! ### Lines -/

/-- A line as it can stand in a text: no line break is part of it. -/
structure IsLine (line : List Char) : Prop where
  feed : '\n' ∉ line
  carriage : line.getLast? ≠ some '\r'

theorem dropCarriageReturn_of_ne (cs : List Char) (h : cs.getLast? ≠ some '\r') :
    dropCarriageReturn cs = cs := by
  unfold dropCarriageReturn
  split
  · contradiction
  · rfl

theorem dropCarriageReturn_concat (cs : List Char) : dropCarriageReturn (cs ++ ['\r']) = cs := by
  simp [dropCarriageReturn]

theorem mem_of_mem_dropCarriageReturn (c : Char) (cs : List Char)
    (h : c ∈ dropCarriageReturn cs) : c ∈ cs := by
  unfold dropCarriageReturn at h
  split at h
  · exact List.mem_of_mem_dropLast h
  · exact h

/-- What stands before the first line feed is the first line. -/
theorem linesOf_feed (piece rest : List Char) (h : '\n' ∉ piece) :
    linesOf (piece ++ '\n' :: rest) = dropCarriageReturn piece :: linesOf rest := by
  have pieces : splitChars '\n' (piece ++ '\n' :: rest) = piece :: splitChars '\n' rest := by
    rw [splitChars_append_sep, splitChars_of_not_mem '\n' piece h]
    rfl
  have some := splitChars_ne_nil '\n' rest
  simp only [linesOf, pieces, List.dropLast_cons_of_ne_nil some, List.getLast?_cons_of_ne_nil some,
    List.map_cons]
  split <;> rfl

theorem linesOf_last (line : List Char) (h : '\n' ∉ line) (nonempty : line ≠ []) :
    linesOf line = [line] := by
  simp only [linesOf, splitChars_of_not_mem '\n' line h]
  cases line with
  | nil => exact absurd rfl nonempty
  | cons c rest => rfl

/-- A line feed between two texts ends the last line of the first one; if there is no such line, it
ends an empty one. -/
theorem linesOf_append_feed (cs rest : List Char) (carriage : cs.getLast? ≠ some '\r') :
    ∃ blank, (blank = [] ∨ blank = [[]]) ∧
      linesOf (cs ++ '\n' :: rest) = linesOf cs ++ blank ++ linesOf rest := by
  by_cases feed : '\n' ∈ cs
  · obtain ⟨piece, more, same, fresh⟩ := List.eq_append_cons_of_mem feed
    have atEnd : more.getLast? ≠ some '\r' := by
      intro last
      rw [same, List.getLast?_append, List.getLast?_cons, last] at carriage
      simp at carriage
    have : more.length < cs.length := by
      rw [same, List.length_append, List.length_cons]
      omega
    obtain ⟨blank, isBlank, later⟩ := linesOf_append_feed more rest atEnd
    refine ⟨blank, isBlank, ?_⟩
    rw [same, linesOf_feed piece more fresh, List.append_assoc, List.cons_append,
      linesOf_feed piece _ fresh, later]
    rfl
  · have first := linesOf_feed cs rest feed
    rw [dropCarriageReturn_of_ne cs carriage] at first
    cases cs with
    | nil => exact ⟨[[]], Or.inr rfl, first⟩
    | cons c cs =>
      refine ⟨[], Or.inl rfl, ?_⟩
      rw [first, linesOf_last _ feed (by simp)]
      rfl
termination_by cs.length

/-- No line of a text holds a line feed. -/
theorem not_mem_of_mem_lines (text line : String) (h : line ∈ lines text) :
    '\n' ∉ line.toList := by
  obtain ⟨cs, inside, rfl⟩ := List.mem_map.mp h
  rw [String.toList_ofList]
  have fresh := not_mem_of_mem_splitChars '\n' text.toList
  have ended : cs ∈ (splitChars '\n' text.toList).dropLast.map dropCarriageReturn →
      '\n' ∉ cs := by
    intro among
    obtain ⟨piece, isPiece, rfl⟩ := List.mem_map.mp among
    exact fun feed => fresh piece (List.mem_of_mem_dropLast isPiece)
      (mem_of_mem_dropCarriageReturn '\n' piece feed)
  simp only [linesOf] at inside
  split at inside
  · exact ended inside
  · exact ended inside
  · rename_i last _ isLast
    rcases List.mem_append.mp inside with among | here
    · exact ended among
    · rw [List.mem_singleton.mp here]
      exact fresh last (List.mem_of_getLast? isLast)

/-- Every line has a character of its own: one that it holds or the line feed behind it. -/
theorem length_linesOf_le (cs : List Char) : (linesOf cs).length ≤ cs.length := by
  by_cases feed : '\n' ∈ cs
  · obtain ⟨piece, rest, same, fresh⟩ := List.eq_append_cons_of_mem feed
    have : rest.length < cs.length := by
      rw [same, List.length_append, List.length_cons]
      omega
    have later := length_linesOf_le rest
    rw [same, linesOf_feed piece rest fresh, List.length_cons, List.length_append,
      List.length_cons]
    omega
  · cases cs with
    | nil => exact Nat.le_refl 0
    | cons c cs =>
      rw [linesOf_last _ feed (by simp), List.length_cons, List.length_cons]
      exact Nat.succ_le_succ (Nat.zero_le _)
termination_by cs.length

/-- A text has no more characters than bytes. -/
theorem length_le_utf8ByteSize (cs : List Char) :
    cs.length ≤ (String.ofList cs).utf8ByteSize := by
  induction cs with
  | nil => exact Nat.zero_le _
  | cons c cs ih =>
    have := Char.utf8Size_pos c
    rw [String.ofList_cons, String.utf8ByteSize_append, String.utf8ByteSize_singleton,
      List.length_cons]
    omega

/-- A text has no more lines than bytes. -/
theorem length_lines_le (text : String) : (lines text).length ≤ text.utf8ByteSize := by
  have chars := length_le_utf8ByteSize text.toList
  rw [String.ofList_toList] at chars
  calc (lines text).length
    _ = (linesOf text.toList).length := List.length_map ..
    _ ≤ text.toList.length := length_linesOf_le text.toList
    _ ≤ text.utf8ByteSize := chars

/-- The two line breaks. -/
def IsLineBreak (newline : String) : Prop := newline = "\n" ∨ newline = "\r\n"

/-- A line with a line break behind it. -/
theorem linesOf_break (newline : String) (isBreak : IsLineBreak newline) (line rest : List Char)
    (h : IsLine line) :
    linesOf (line ++ newline.toList ++ rest) = line :: linesOf rest := by
  rcases isBreak with rfl | rfl
  · have read := linesOf_feed line rest h.feed
    rw [dropCarriageReturn_of_ne line h.carriage] at read
    simpa using read
  · have read := linesOf_feed (line ++ ['\r']) rest (by simp [h.feed])
    rw [dropCarriageReturn_concat] at read
    simpa using read

/-- Lines with a line break between neighbours are found again, whether the last one is ended by a
line break too or not. -/
theorem linesOf_join (newline ending : String) (isBreak : IsLineBreak newline)
    (atEnd : ending = "" ∨ ending = newline) (line : String) (more : List String)
    (h : ∀ l ∈ line :: more, IsLine l.toList ∧ l ≠ "") :
    linesOf (join newline (line :: more) ++ ending).toList
      = (line :: more).map String.toList := by
  induction more generalizing line with
  | nil =>
    obtain ⟨isLine, nonempty⟩ := h line (by simp)
    rcases atEnd with rfl | rfl
    · simpa [join] using linesOf_last line.toList isLine.feed (by simpa using nonempty)
    · have read := linesOf_break ending isBreak line.toList [] isLine
      simpa [join, show linesOf [] = [] from rfl] using read
  | cons next more ih =>
    have first := linesOf_break newline isBreak line.toList
      (join newline (next :: more) ++ ending).toList (h line (by simp)).1
    have later := ih next fun l inside => h l (List.mem_cons_of_mem _ inside)
    rw [later] at first
    simpa [join] using first

/-! ### Blanks around a line -/

/-- Spaces before a line are blanks around it. -/
theorem trimBlank_indented (n : Nat) (cs : List Char) :
    trimBlank (List.replicate n ' ' ++ cs) = trimBlank cs := by
  have dropped : dropBlank (List.replicate n ' ' ++ cs) = dropBlank cs := by
    refine List.dropWhile_append_of_pos fun c inside => ?_
    rw [List.eq_of_mem_replicate inside]
    rfl
  rw [trimBlank, dropped, trimBlank]

/-- A line with nothing to trim is blank only if it is empty. -/
theorem not_all_isBlank (cs : List Char) (trimmed : trimBlank cs = cs) (nonempty : cs ≠ []) :
    cs.all isBlank = false := by
  rw [Bool.eq_false_iff]
  intro blank
  have dropped : dropBlank cs = [] := List.dropWhile_eq_nil_iff.mpr (List.all_eq_true.mp blank)
  rw [trimBlank, dropped] at trimmed
  exact nonempty trimmed.symm

/-- A line with nothing to trim does not end in a carriage return. -/
theorem getLast?_ne_of_trimBlank (cs : List Char) (trimmed : trimBlank cs = cs) :
    cs.getLast? ≠ some '\r' := by
  intro last
  rw [← trimmed, trimBlank, dropEndWhile, List.getLast?_reverse] at last
  have kept := List.head?_dropWhile_not isBlank (dropBlank cs).reverse
  rw [last] at kept
  exact absurd (show isBlank '\r' = true by decide) (by simp [kept])

/-! ### Numbers -/

theorem digitValue?_of_isDigit (c : Char) (h : c.isDigit = true) :
    digitValue? c = some (c.toNat - '0'.toNat) := by
  simp only [Char.isDigit, Bool.and_eq_true, decide_eq_true_eq] at h
  exact if_pos h

theorem isDigit_of_mem_toDigits (n : Nat) (c : Char) (h : c ∈ Nat.toDigits 10 n) :
    c.isDigit = true :=
  Nat.isDigit_of_mem_toDigits (by decide) (by decide) h

/-- The decimal digits of a number denote it. -/
theorem digitsValue_toDigits (n : Nat) : digitsValue 0 (Nat.toDigits 10 n) = n := by
  calc digitsValue 0 (Nat.toDigits 10 n)
    _ = Nat.ofDigitChars 10 (Nat.toDigits 10 n) 0 := by
      rw [Nat.ofDigitChars_eq_foldl]
      refine List.foldl_ext _ _ 0 fun value c inside => ?_
      simp [digitValue?_of_isDigit c (isDigit_of_mem_toDigits n c inside)]
    _ = n := Nat.ofDigitChars_ten_toDigits

end TsWorkshop.Text
