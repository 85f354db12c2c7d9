import Mathlib.Data.List.Infix
import TsWorkshop.Compiler.Diagnostic
import TsWorkshop.Proofs.Text.Pieces

/-!
The compiler's plain format and its reader. A diagnostic is printed as a header, with or without a
place in a file, and further lines of its message, each indented. What is printed is read back
(`ofOutput_printed`), unless a text that stands where a file name could stand holds the mark that
ends a place. The induction is on the printed diagnostics; the reader always holds the one whose
message may still go on.
-/

namespace TsWorkshop.Diagnostic

open Text

/-! ### What is printed -/

/-- A diagnostic as it is printed: its file, line and column if it has a place, what stands behind
its code, and the further lines of its message. With each of these stands how many spaces it is
indented by beside the first. -/
structure Printout where
  place : Option (Path × Nat × Nat)
  severity : Severity
  code : Nat
  text : String
  further : List (Nat × String)
  deriving DecidableEq, Repr

namespace Printout

def placeText : Option (Path × Nat × Nat) → String
  | none => ""
  | some (file, line, column) => file ++ "(" ++ toString line ++ "," ++ toString column ++ "): "

def bodyText (p : Printout) : String :=
  p.severity.name ++ " TS" ++ toString p.code ++ ": " ++ p.text

def header (p : Printout) : String := placeText p.place ++ p.bodyText

def indented (spaces : Nat) (line : String) : String := repeated (spaces + 1) ' ' ++ line

def lines (p : Printout) : List String :=
  p.header :: p.further.map fun (spaces, line) => indented spaces line

/-- The diagnostic that a header alone stands for. -/
def opened (p : Printout) : Diagnostic :=
  { file := p.place.map fun (file, _, _) => file
    line := (p.place.map fun (_, line, _) => line).getD 0
    column := (p.place.map fun (_, _, column) => column).getD 0
    severity := p.severity
    code := p.code
    message := p.text }

/-- The diagnostic that is printed: its message is the text of the header and the further lines,
without their indentation. -/
def diagnostic (p : Printout) : Diagnostic :=
  { p.opened with message := join "\n" (p.text :: p.further.map fun (_, line) => line) }

/-- The mark between a place and what is said about it. -/
def placeEnd : List Char := "): ".toList

/-- A file name that can be told from what stands behind it, and a place that fits in words. -/
structure IsPlace (file : Path) (line column : Nat) : Prop where
  nonempty : file ≠ ""
  feed : '\n' ∉ file.toList
  free : ¬ placeEnd <:+: file.toList
  line : line ≤ Word.unsignedMax
  column : column ≤ Word.unsignedMax

/-- A further line of a message. -/
structure IsFurther (line : String) : Prop where
  nonempty : line ≠ ""
  feed : '\n' ∉ line.toList
  trimmed : trim line = line
  free : ¬ placeEnd <:+: line.toList

/-- A printout of which every part can be told from the others. Only where no file name stands in
the header its text must not hold the mark that ends a place. -/
structure Regular (p : Printout) : Prop where
  place : ∀ file line column, p.place = some (file, line, column) → IsPlace file line column
  code : p.code ≤ Word.unsignedMax32
  text : IsLine p.text.toList
  bare : p.place = none → ¬ placeEnd <:+: p.text.toList
  further : ∀ spaces line, (spaces, line) ∈ p.further → IsFurther line

end Printout

open Printout

/-- The text of printed diagnostics, a line break between neighbouring lines; `closed` says whether
the last line is ended by one too. -/
def printed (newline : String) (closed : Bool) (ps : List Printout) : String :=
  join newline (ps.flatMap Printout.lines) ++ if closed then newline else ""

/-! ### Digits -/

theorem isDecimalDigit_of_isDigit (c : Char) (h : c.isDigit = true) :
    Unicode.isDecimalDigit c = true := by
  refine List.any_eq_true.mpr ⟨(0x30, 0x39), List.Mem.head _, ?_⟩
  simp only [Char.isDigit, Bool.and_eq_true, decide_eq_true_eq] at h ⊢
  exact h

/-- One or more decimal digits. -/
def IsNumeral (cs : List Char) : Prop :=
  cs ≠ [] ∧ ∀ c ∈ cs, Unicode.isDecimalDigit c = true

theorem isNumeral_toDigits (n : Nat) : IsNumeral (Nat.toDigits 10 n) :=
  ⟨Nat.toDigits_ne_nil, fun c inside =>
    isDecimalDigit_of_isDigit c (isDigit_of_mem_toDigits n c inside)⟩

/-- A numeral is read up to the first character that is no digit. -/
theorem digits?_append (digits : List Char) (c : Char) (rest : List Char)
    (numeral : IsNumeral digits) (ends : Unicode.isDecimalDigit c = false) :
    digits? (digits ++ c :: rest) = some (digits, c :: rest) := by
  have taken : (digits ++ c :: rest).takeWhile Unicode.isDecimalDigit = digits := by
    simp [List.takeWhile_append_of_pos numeral.2, ends]
  have dropped : (digits ++ c :: rest).dropWhile Unicode.isDecimalDigit = c :: rest := by
    simp [List.dropWhile_append_of_pos numeral.2, ends]
  have nonempty := numeral.1
  rw [digits?, taken, dropped]
  split
  · contradiction
  · rfl

theorem boundedNumber_toDigits (max n : Nat) (h : n ≤ max) :
    boundedNumber max (Nat.toDigits 10 n) = n := by
  have digits : ((Nat.toDigits 10 n).all fun c => (digitValue? c).isSome) = true := by
    refine List.all_eq_true.mpr fun c inside => ?_
    rw [digitValue?_of_isDigit c (isDigit_of_mem_toDigits n c inside)]
    rfl
  rw [boundedNumber, if_pos digits, digitsValue_toDigits]
  exact if_pos h

theorem of_digits?_eq_some (cs digits rest : List Char) (h : digits? cs = some (digits, rest)) :
    cs = digits ++ rest ∧ IsNumeral digits := by
  unfold digits? at h
  split at h
  · cases h
  · rename_i nonempty
    cases h
    exact ⟨List.takeWhile_append_dropWhile.symm, nonempty,
      fun c inside => List.mem_takeWhile_imp inside⟩

/-! ### Headers -/

theorem body?_bodyText (p : Printout) (code : p.code ≤ Word.unsignedMax32) :
    body? p.bodyText.toList = some (p.severity, p.code, p.text.toList) := by
  have read := digits?_append _ ':' (' ' :: p.text.toList) (isNumeral_toDigits p.code) (by decide)
  have number := boundedNumber_toDigits Word.unsignedMax32 p.code code
  cases severity : p.severity <;>
    simp [body?, bodyText, severity, Severity.name, stripStart, read, number]

/-- What stands at a place: brackets with no bracket in between, and the mark behind them. -/
theorem front_of_place? (cs : List Char) (found : Nat × Nat × Severity × Nat × List Char)
    (h : place? cs = some found) :
    ∃ front after, cs = '(' :: (front ++ placeEnd ++ after) ∧ '(' ∉ front := by
  simp only [place?, Option.bind_eq_bind, Option.bind_eq_some_iff, Prod.exists] at h
  obtain ⟨inside, opening, line, behindLine, hline, behindComma, comma, column, behindColumn,
    hcolumn, after, closing, -⟩ := h
  obtain ⟨rfl, lineDigits⟩ := of_digits?_eq_some _ _ _ hline
  obtain rfl := eq_append_of_stripStart _ _ _ opening
  obtain rfl := eq_append_of_stripStart _ _ _ comma
  obtain ⟨rfl, columnDigits⟩ := of_digits?_eq_some _ _ _ hcolumn
  obtain rfl := eq_append_of_stripStart _ _ _ closing
  have noDigit : Unicode.isDecimalDigit '(' = false := by decide
  refine ⟨line ++ ',' :: column, after, by simp [placeEnd], fun bracket => ?_⟩
  rcases List.mem_append.mp bracket with inLine | inRest
  · simp [lineDigits.2 _ inLine] at noDigit
  · rcases List.mem_cons.mp inRest with same | inColumn
    · cases same
    · simp [columnDigits.2 _ inColumn] at noDigit

theorem place?_eq_none (cs : List Char) (free : ¬ placeEnd <:+: cs) : place? cs = none := by
  refine Option.eq_none_iff_forall_ne_some.mpr fun found h => free ?_
  obtain ⟨front, after, rfl, -⟩ := front_of_place? cs found h
  exact ⟨'(' :: front, after, by simp⟩

/-- No place begins inside a file name, if the mark that ends a place does not occur in it. -/
theorem place?_inside (name rest : List Char) (nonempty : name ≠ [])
    (free : ¬ placeEnd <:+: name) : place? (name ++ '(' :: rest) = none := by
  refine Option.eq_none_iff_forall_ne_some.mpr fun found h => ?_
  obtain ⟨front, after, same, noBracket⟩ := front_of_place? _ found h
  cases name with
  | nil => exact nonempty rfl
  | cons c name =>
    simp only [List.cons_append, List.cons.injEq] at same
    obtain ⟨rfl, same⟩ := same
    -- the bracket behind the name stands behind the mark, since none stands before it
    rcases List.append_eq_append_iff.mp same with ⟨more, inFront, behind⟩ | ⟨more, inName, -⟩
    · cases more with
      | nil => exact free ⟨'(' :: front, [], by simp [inFront]⟩
      | cons d more =>
        obtain ⟨rfl, -⟩ := List.cons.inj behind
        have bracket : '(' ∈ front ++ placeEnd := by simp [inFront]
        rcases List.mem_append.mp bracket with inside | inside
        · exact noBracket inside
        · simp [placeEnd] at inside
    · exact free ⟨'(' :: front, more, by simp [inName]⟩

theorem withFile?_eq_none (name cs : List Char) (free : ¬ placeEnd <:+: cs) :
    withFile? name cs = none := by
  induction cs generalizing name with
  | nil => rfl
  | cons c rest ih =>
    have later : ¬ placeEnd <:+: rest := fun inside =>
      free (inside.trans (List.suffix_cons c rest).isInfix)
    rw [withFile?, place?_eq_none rest later]
    exact ih (c :: name) later

/-- The file name that is found ends where the first place stands. -/
theorem withFile?_append (name file rest : List Char) (nonempty : file ≠ [])
    (free : ¬ placeEnd <:+: file) (line column : Nat) (severity : Severity) (code : Nat)
    (text : List Char) (here : place? ('(' :: rest) = some (line, column, severity, code, text)) :
    withFile? name (file ++ '(' :: rest) =
      some ⟨some (String.ofList (name.reverse ++ file)), line, column, severity, code,
        String.ofList text⟩ := by
  induction file generalizing name with
  | nil => exact absurd rfl nonempty
  | cons c file ih =>
    cases file with
    | nil => simp [withFile?, here]
    | cons d file =>
      have later : ¬ placeEnd <:+: d :: file := fun inside =>
        free (inside.trans (List.suffix_cons c (d :: file)).isInfix)
      have goesOn := ih (c :: name) (by simp) later
      rw [List.cons_append, withFile?, place?_inside (d :: file) rest (by simp) later, goesOn]
      simp

theorem place?_placed (p : Printout) (line column : Nat) (hline : line ≤ Word.unsignedMax)
    (hcolumn : column ≤ Word.unsignedMax) (code : p.code ≤ Word.unsignedMax32) :
    place? ('(' :: (Nat.toDigits 10 line ++ ',' :: (Nat.toDigits 10 column ++ placeEnd
      ++ p.bodyText.toList))) = some (line, column, p.severity, p.code, p.text.toList) := by
  have readLine := digits?_append _ ',' (Nat.toDigits 10 column ++ placeEnd ++ p.bodyText.toList)
    (isNumeral_toDigits line) (by decide)
  have readColumn := digits?_append _ ')' (':' :: ' ' :: p.bodyText.toList)
    (isNumeral_toDigits column) (by decide)
  have readBody := body?_bodyText p code
  have lineNumber := boundedNumber_toDigits Word.unsignedMax line hline
  have columnNumber := boundedNumber_toDigits Word.unsignedMax column hcolumn
  simp only [placeEnd] at readLine ⊢
  simp_all [place?, stripStart]

theorem toList_placed (p : Printout) (file : Path) (line column : Nat)
    (place : p.place = some (file, line, column)) :
    p.header.toList = file.toList ++ '(' :: (Nat.toDigits 10 line ++ ',' ::
      (Nat.toDigits 10 column ++ placeEnd ++ p.bodyText.toList)) := by
  simp [header, place, placeText, placeEnd]

/-- What stands before the text of a header without a place. -/
def bodyHead (p : Printout) : List Char :=
  (p.severity.name ++ " TS" ++ toString p.code ++ ": ").toList

theorem toList_bodyText (p : Printout) : p.bodyText.toList = bodyHead p ++ p.text.toList := by
  simp [bodyText, bodyHead]

/-- No severity and no code holds a bracket or a line break. -/
theorem not_mem_bodyHead (p : Printout) (c : Char) (noDigit : c.isDigit = false)
    (other : c = ')' ∨ c = '\n') : c ∉ bodyHead p := by
  have inCode : c ∉ Nat.toDigits 10 p.code := fun inside => by
    simp [isDigit_of_mem_toDigits p.code c inside] at noDigit
  cases severity : p.severity <;> rcases other with rfl | rfl <;>
    simpa [bodyHead, severity, Severity.name] using inCode

/-- A header is read back. -/
theorem ofLine?_header (p : Printout) (regular : p.Regular) :
    ofLine? p.header.toList = some p.opened := by
  have readBody := body?_bodyText p regular.code
  cases place : p.place with
  | none =>
    have bare : p.header = p.bodyText := by simp [header, place, placeText]
    have free : ¬ placeEnd <:+: p.bodyText.toList := by
      rw [toList_bodyText]
      intro inside
      exact regular.bare place (infix_of_infix_append ')' _ _ _
        (not_mem_bodyHead p ')' (by decide) (Or.inl rfl)) inside)
    rw [bare, ofLine?, withFile?_eq_none [] _ free, readBody]
    simp [opened, place]
  | some triple =>
    obtain ⟨file, line, column⟩ := triple
    have known := regular.place file line column place
    have here := place?_placed p line column known.line known.column regular.code
    have found := withFile?_append [] file.toList _ (by simpa using known.nonempty) known.free
      _ _ _ _ _ here
    rw [toList_placed p file line column place, ofLine?, found]
    simp [opened, place]

/-- What ends with the text of a header is one line. -/
theorem isLine_bodyText (p : Printout) (text : IsLine p.text.toList) (front : List Char)
    (feed : '\n' ∉ front) : IsLine (front ++ p.bodyText.toList) := by
  have feedHead := not_mem_bodyHead p '\n' (by decide) (Or.inr rfl)
  rw [toList_bodyText]
  refine ⟨by simp [feed, feedHead, text.feed], fun last => ?_⟩
  cases chars : p.text.toList with
  | nil =>
    rw [chars, List.append_nil, bodyHead, String.toList_append, ← List.append_assoc,
      List.getLast?_append_of_ne_nil _ (by simp)] at last
    simp at last
  | cons c rest =>
    rw [← List.append_assoc, List.getLast?_append_of_ne_nil _ (by simp [chars])] at last
    exact text.carriage last

/-- A header is one line. -/
theorem isLine_header (p : Printout) (regular : p.Regular) : IsLine p.header.toList := by
  cases place : p.place with
  | none =>
    have read := isLine_bodyText p regular.text [] (by simp)
    simpa [header, place, placeText] using read
  | some triple =>
    obtain ⟨file, line, column⟩ := triple
    have known := regular.place file line column place
    have noDigit : ∀ n, '\n' ∉ Nat.toDigits 10 n := fun n inside => by
      simpa using isDigit_of_mem_toDigits n '\n' inside
    have read := isLine_bodyText p regular.text (placeText p.place).toList
      (by simp [place, placeText, known.feed, noDigit])
    simpa [header] using read

/-! ### Further lines -/

theorem toList_indented (spaces : Nat) (line : String) :
    (indented spaces line).toList = List.replicate (spaces + 1) ' ' ++ line.toList := by
  simp [indented, repeated]

theorem trimBlank_of_isFurther (line : String) (h : IsFurther line) :
    trimBlank line.toList = line.toList := by
  simpa [trim] using congrArg String.toList h.trimmed

theorem isLine_indented (spaces : Nat) (line : String) (h : IsFurther line) :
    IsLine (indented spaces line).toList := by
  have trimmed := trimBlank_of_isFurther line h
  have nonempty : line.toList ≠ [] := by simpa using h.nonempty
  rw [toList_indented]
  refine ⟨by simp [h.feed], ?_⟩
  rw [List.getLast?_append_of_ne_nil _ nonempty]
  exact getLast?_ne_of_trimBlank line.toList trimmed

/-- A further line opens no diagnostic. -/
theorem ofLine?_indented (spaces : Nat) (line : String) (h : IsFurther line) :
    ofLine? (indented spaces line).toList = none := by
  have free : ¬ placeEnd <:+: (indented spaces line).toList := by
    rw [toList_indented]
    intro inside
    exact h.free (infix_of_infix_append ')' _ _ _ (by simp) inside)
  rw [ofLine?, withFile?_eq_none [] _ free, toList_indented, List.replicate_succ]
  rfl

theorem isContinuation_indented (spaces : Nat) (line : String) (h : IsFurther line) :
    isContinuation (indented spaces line).toList = true := by
  have content := not_all_isBlank line.toList (trimBlank_of_isFurther line h)
    (by simpa using h.nonempty)
  simp [isContinuation, toList_indented, List.replicate_succ, content]

theorem extend_indented (d : Diagnostic) (spaces : Nat) (line : String) (h : IsFurther line) :
    d.extend (indented spaces line).toList = { d with message := d.message ++ "\n" ++ line } := by
  rw [extend, toList_indented, trimBlank_indented, trimBlank_of_isFurther line h,
    String.ofList_toList]

/-! ### Runs over lines -/

/-- A header closes the diagnostic before it. -/
theorem ofLines_header (last : Option Diagnostic) (p : Printout) (regular : p.Regular)
    (rest : List (List Char)) :
    ofLines last (p.header.toList :: rest) = last.toList ++ ofLines (some p.opened) rest := by
  simp only [ofLines, ofLine?_header p regular]

/-- A further line goes on with the message of the open diagnostic. -/
theorem ofLines_indented (d : Diagnostic) (spaces : Nat) (line : String) (h : IsFurther line)
    (rest : List (List Char)) :
    ofLines (some d) ((indented spaces line).toList :: rest) =
      ofLines (some { d with message := d.message ++ "\n" ++ line }) rest := by
  simp only [ofLines, ofLine?_indented spaces line h, isContinuation_indented spaces line h,
    if_true, Option.map_some, extend_indented d spaces line h]

/-- All further lines of a diagnostic are read into its message. -/
theorem ofLines_further (d : Diagnostic) (further : List (Nat × String))
    (h : ∀ spaces line, (spaces, line) ∈ further → IsFurther line) (rest : List (List Char)) :
    ofLines (some d) ((further.map fun (spaces, line) => (indented spaces line).toList) ++ rest) =
      ofLines (some { d with message := join "\n" (d.message :: further.map (·.2)) }) rest := by
  induction further generalizing d with
  | nil => rfl
  | cons entry further ih =>
    obtain ⟨spaces, line⟩ := entry
    have read := ofLines_indented d spaces line (h spaces line (by simp))
    have readOn := ih { d with message := d.message ++ "\n" ++ line } fun spaces line inside =>
      h spaces line (List.mem_cons_of_mem _ inside)
    simp only [List.map_cons, List.cons_append, read, readOn]
    rw [join_append_left]
    rfl

/-- One printed diagnostic is read, whatever lines come behind it. -/
theorem ofLines_lines (last : Option Diagnostic) (p : Printout) (regular : p.Regular)
    (rest : List (List Char)) :
    ofLines last (p.lines.map String.toList ++ rest) =
      last.toList ++ ofLines (some p.diagnostic) rest := by
  have readOn := ofLines_further p.opened p.further regular.further rest
  rw [Printout.lines, List.map_cons, List.cons_append, ofLines_header last p regular, List.map_map]
  exact congrArg (last.toList ++ ·) readOn

/-- Printed diagnostics are read one after another. -/
theorem ofLines_printouts (last : Option Diagnostic) (ps : List Printout)
    (regular : ∀ p ∈ ps, p.Regular) :
    ofLines last ((ps.flatMap Printout.lines).map String.toList) =
      last.toList ++ ps.map Printout.diagnostic := by
  induction ps generalizing last with
  | nil => simp [ofLines]
  | cons p ps ih =>
    rw [List.flatMap_cons, List.map_append, ofLines_lines last p (regular p (by simp)),
      ih (some p.diagnostic) fun q inside => regular q (List.mem_cons_of_mem _ inside)]
    rfl

/-- Every line of a printed diagnostic stands in a text as one line that is not empty. -/
theorem isLine_of_mem_lines (p : Printout) (regular : p.Regular) (l : String) (h : l ∈ p.lines) :
    IsLine l.toList ∧ l ≠ "" := by
  rcases List.mem_cons.mp h with rfl | inFurther
  · refine ⟨isLine_header p regular, fun empty => ?_⟩
    have read := ofLine?_header p regular
    rw [empty] at read
    cases read
  · obtain ⟨⟨spaces, line⟩, inside, rfl⟩ := List.mem_map.mp inFurther
    have known := regular.further spaces line inside
    refine ⟨isLine_indented spaces line known, fun empty => known.nonempty ?_⟩
    simpa [indented] using (String.append_eq_empty_iff.mp empty).2

/-- What the compiler prints in its plain format is read back: the same diagnostics in the same
order, each with the further lines of its message, whatever the indentation and the kind of line
break, and whether the last line is ended or not. -/
theorem ofOutput_printed (newline : String) (closed : Bool) (ps : List Printout)
    (isBreak : IsLineBreak newline) (regular : ∀ p ∈ ps, p.Regular) :
    ofOutput (printed newline closed ps) = ps.map Printout.diagnostic := by
  have atEnd : ∀ ending, ending = (if closed then newline else "") →
      ending = "" ∨ ending = newline := by
    rintro ending rfl
    cases closed
    · exact Or.inl rfl
    · exact Or.inr rfl
  cases ps with
  | nil => rcases isBreak with rfl | rfl <;> cases closed <;> decide
  | cons p ps =>
    have isLine : ∀ l ∈ (p :: ps).flatMap Printout.lines, IsLine l.toList ∧ l ≠ "" := by
      intro l inside
      obtain ⟨q, printed, inLines⟩ := List.mem_flatMap.mp inside
      exact isLine_of_mem_lines q (regular q printed) l inLines
    have found := linesOf_join newline _ isBreak (atEnd _ rfl) p.header _ isLine
    rw [ofOutput, printed]
    exact (congrArg (ofLines none) found).trans (ofLines_printouts none (p :: ps) regular)

/-- A file name with brackets in it, texts that look like headers, and a header without a place. -/
def bracketed : List Printout :=
  [{ place := some ("src/(app)/page(1,2).ts", 3, 7), severity := .error, code := 2322
     text := "Seen from b.ts(1,1): error TS1: x"
     further := [(1, "Types of 'x' are incompatible."), (3, "error TS2: no header (1,2):")] },
   { place := none, severity := .warning, code := 5058, text := "b.ts(1,2) is missing.",
     further := [] }]

theorem regular_bracketed (p : Printout) (h : p ∈ bracketed) : p.Regular := by
  simp only [bracketed, List.mem_cons, List.not_mem_nil, or_false] at h
  rcases h with rfl | rfl
  · refine ⟨?_, by decide, ⟨by decide, by decide⟩, by simp, ?_⟩
    · rintro file line column ⟨⟩
      exact ⟨by decide, by decide, by decide, by decide, by decide⟩
    · rintro spaces line inside
      simp only [List.mem_cons, Prod.mk.injEq, List.not_mem_nil, or_false] at inside
      rcases inside with ⟨-, rfl⟩ | ⟨-, rfl⟩ <;>
        exact ⟨by decide, by decide, by decide, by decide⟩
  · exact ⟨by simp, by decide, ⟨by decide, by decide⟩, fun _ => by decide, by simp⟩

theorem ofOutput_printed_bracketed :
    IsLineBreak "\r\n" ∧ (∀ p ∈ bracketed, p.Regular) ∧
      ofOutput (printed "\r\n" true bracketed) =
        [⟨some "src/(app)/page(1,2).ts", 3, 7, .error, 2322, "Seen from b.ts(1,1): error TS1: x" ++
            "\nTypes of 'x' are incompatible." ++ "\nerror TS2: no header (1,2):"⟩,
         ⟨none, 0, 0, .warning, 5058, "b.ts(1,2) is missing."⟩] :=
  ⟨Or.inr rfl, regular_bracketed,
    ofOutput_printed "\r\n" true bracketed (Or.inr rfl) regular_bracketed⟩

end TsWorkshop.Diagnostic
