import TsWorkshop.Proofs.Text.Pieces
import TsWorkshop.Text.Style

/-!
Texts without their style sequences. A style sequence is an escape, a bracket, numbers and `m`;
`Style.erase` takes all of them out of a text. What stands behind a text can complete a sequence
that the text begins, so one text shows the same as another (`Shows`) if erasing gives the other
one whatever stands behind it. Painting shows the same as leaving a text as it is (`Shows.paint`),
and so do texts that are put together from pieces that show the same.
-/

namespace TsWorkshop

namespace Text

theorem mem_of_mem_splitChars (sep c : Char) (cs piece : List Char) (h : piece ∈ splitChars sep cs)
    (inside : c ∈ piece) : c ∈ cs := by
  induction cs generalizing piece with
  | nil =>
    obtain rfl : piece = [] := by simpa [splitChars] using h
    cases inside
  | cons d rest ih =>
    unfold splitChars at h
    split at h
    · rcases List.mem_cons.mp h with rfl | later
      · cases inside
      · exact List.mem_cons_of_mem d (ih piece later inside)
    · cases pieces : splitChars sep rest with
      | nil => exact absurd pieces (splitChars_ne_nil sep rest)
      | cons first more =>
        rw [pieces] at h ih
        rcases List.mem_cons.mp h with rfl | later
        · rcases List.mem_cons.mp inside with rfl | further
          · exact List.mem_cons_self
          · exact List.mem_cons_of_mem d (ih first List.mem_cons_self further)
        · exact List.mem_cons_of_mem d (ih piece (List.mem_cons_of_mem first later) inside)

/-- A line of a text holds characters of the text only. -/
theorem mem_of_mem_lines (text line : String) (h : line ∈ lines text) (c : Char)
    (inside : c ∈ line.toList) : c ∈ text.toList := by
  obtain ⟨cs, among, rfl⟩ := List.mem_map.mp h
  rw [String.toList_ofList] at inside
  have ended (isEnded : cs ∈ (splitChars '\n' text.toList).dropLast.map dropCarriageReturn) :
      c ∈ text.toList := by
    obtain ⟨piece, isPiece, rfl⟩ := List.mem_map.mp isEnded
    exact mem_of_mem_splitChars '\n' c _ piece (List.mem_of_mem_dropLast isPiece)
      (mem_of_mem_dropCarriageReturn c piece inside)
  unfold linesOf at among
  dsimp only at among
  split at among
  · exact ended among
  · exact ended among
  · rename_i last _ isLast
    rcases List.mem_append.mp among with isEnded | here
    · exact ended isEnded
    · rw [List.mem_singleton.mp here] at inside
      exact mem_of_mem_splitChars '\n' c _ last (List.mem_of_getLast? isLast) inside

end Text

namespace Style

/-! ### Sequences -/

/-- The character that begins a style sequence. -/
def escape : Char := '\x1b'

/-- A character of the numbers of a style sequence. -/
def isParameter (c : Char) : Bool := c.isDigit || c == ';'

/-- What stands behind the style sequence at the front of a text, if there is one. -/
def behind? : List Char → Option (List Char)
  | '\x1b' :: '[' :: rest =>
    match rest.dropWhile isParameter with
    | 'm' :: after => some after
    | _ => none
  | _ => none

theorem length_behind? (cs after : List Char) (h : behind? cs = some after) :
    after.length < cs.length := by
  unfold behind? at h
  split at h
  · rename_i rest
    split at h
    · rename_i dropped
      have shorter := (List.dropWhile_suffix (p := isParameter) (l := rest)).length_le
      rw [dropped, Option.some.inj h, List.length_cons] at shorter
      simp only [List.length_cons]
      omega
    · cases h
  · cases h

/-- The characters of a text less its style sequences. -/
def eraseChars (cs : List Char) : List Char :=
  match cs with
  | [] => []
  | c :: rest =>
    match _h : behind? (c :: rest) with
    | some after => eraseChars after
    | none => c :: eraseChars rest
termination_by cs.length
decreasing_by
  · exact length_behind? _ _ _h
  · simp

/-- A text less its style sequences. -/
def erase (text : String) : String := String.ofList (eraseChars text.toList)

/-- No style sequence begins in the text. -/
def Unstyled (text : String) : Prop := escape ∉ text.toList

instance (text : String) : Decidable (Unstyled text) := inferInstanceAs (Decidable (¬ _))

@[simp] theorem unstyled_append (front back : String) :
    Unstyled (front ++ back) ↔ Unstyled front ∧ Unstyled back := by
  simp [Unstyled, not_or]

theorem unstyled_toString (n : Nat) : Unstyled (toString n) := by
  intro inside
  rw [Nat.toString_eq_ofList_toDigits, String.toList_ofList] at inside
  exact absurd (Text.isDigit_of_mem_toDigits n escape inside) (by decide)

theorem unstyled_repeated (n : Nat) (c : Char) (other : c ≠ escape) :
    Unstyled (Text.repeated n c) := by
  intro inside
  rw [Text.repeated, String.toList_ofList] at inside
  exact other (List.eq_of_mem_replicate inside).symm

theorem unstyled_of_mem_lines (text line : String) (h : Unstyled text)
    (among : line ∈ Text.lines text) : Unstyled line :=
  fun inside => h (Text.mem_of_mem_lines text line among escape inside)

/-! ### Erasing -/

theorem eraseChars_of_behind? (cs after : List Char) (h : behind? cs = some after) :
    eraseChars cs = eraseChars after := by
  cases cs with
  | nil => cases h
  | cons c rest =>
    rw [eraseChars]
    split
    · rename_i found
      rw [h] at found
      rw [Option.some.inj found]
    · rename_i missing
      rw [h] at missing
      cases missing

theorem eraseChars_cons_of_ne (c : Char) (rest : List Char) (other : c ≠ escape) :
    eraseChars (c :: rest) = c :: eraseChars rest := by
  have missing : behind? (c :: rest) = none := by
    unfold behind?
    split
    · rename_i same
      exact absurd (List.cons.inj same).1 other
    · rfl
  rw [eraseChars]
  split
  · rename_i found
    rw [missing] at found
    cases found
  · rfl

theorem eraseChars_append (front rest : List Char) (h : escape ∉ front) :
    eraseChars (front ++ rest) = front ++ eraseChars rest := by
  induction front with
  | nil => rfl
  | cons c front ih =>
    simp only [List.mem_cons, not_or] at h
    rw [List.cons_append, eraseChars_cons_of_ne c _ (Ne.symm h.1), ih h.2, List.cons_append]

/-- A control sequence with a number is a style sequence. -/
theorem eraseChars_code (number : String) (rest : List Char)
    (h : number.toList.all isParameter = true) :
    eraseChars ((code number).toList ++ rest) = eraseChars rest := by
  have parameters : ∀ c ∈ number.toList, isParameter c = true := List.all_eq_true.mp h
  have chars : (code number).toList ++ rest = '\x1b' :: '[' :: (number.toList ++ 'm' :: rest) := by
    simp [code]
  have ends : ('m' :: rest).dropWhile isParameter = 'm' :: rest :=
    List.dropWhile_cons_of_neg (by decide)
  have found : behind? ((code number).toList ++ rest) = some rest := by
    rw [chars, behind?, List.dropWhile_append_of_pos parameters, ends]
    rfl
  exact eraseChars_of_behind? _ rest found

/-! ### Texts that show the same -/

/-- Whatever stands behind it, the first text less its style sequences is the second one. -/
def Shows (painted plain : String) : Prop :=
  ∀ rest, eraseChars (painted.toList ++ rest) = plain.toList ++ eraseChars rest

namespace Shows

variable {painted plain painted' plain' : String}

theorem erase_eq (h : Shows painted plain) : erase painted = plain := by
  have nothing : eraseChars [] = [] := by rw [eraseChars]
  have alone := h []
  rw [List.append_nil, nothing, List.append_nil] at alone
  rw [erase, alone, String.ofList_toList]

theorem refl (text : String) (h : Unstyled text) : Shows text text :=
  fun rest => eraseChars_append text.toList rest h

theorem append (front : Shows painted plain) (back : Shows painted' plain') :
    Shows (painted ++ painted') (plain ++ plain') := by
  intro rest
  rw [String.toList_append, String.toList_append, List.append_assoc, front, back,
    List.append_assoc]

theorem code (number : String) (h : number.toList.all isParameter = true) :
    Shows (Style.code number) "" :=
  fun rest => eraseChars_code number rest h

/-- A text in a style shows the same as without. -/
theorem paint (style : Style) (h : Shows painted plain) :
    Shows (style.paint true painted) (style.paint false plain) := by
  have start : Shows (Style.code style.start) "" := code _ (by cases style <;> decide)
  have stop : Shows (Style.code style.stop) "" := code _ (by cases style <;> decide)
  have around := (start.append h).append stop
  rwa [String.empty_append, String.append_empty] at around

theorem join (sep : String) (unstyled : Unstyled sep) (pieces plains : List String)
    (h : List.Forall₂ Shows pieces plains) :
    Shows (Text.join sep pieces) (Text.join sep plains) := by
  induction h with
  | nil => exact refl "" (by decide)
  | @cons piece plain pieces plains first more ih =>
    cases more with
    | nil => exact first
    | cons next more => exact (first.append (refl sep unstyled)).append ih

end Shows

/-- Texts that show the same, one by one, are the same without their style sequences. -/
theorem map_erase (painted plain : List String) (h : List.Forall₂ Shows painted plain) :
    painted.map erase = plain := by
  induction h with
  | nil => rfl
  | cons first more ih => rw [List.map_cons, first.erase_eq, ih]

theorem map_erase_option (painted plain : Option String) (h : Option.Rel Shows painted plain) :
    painted.map erase = plain := by
  cases h with
  | none => rfl
  | some shown => rw [Option.map_some, shown.erase_eq]

end Style

end TsWorkshop
