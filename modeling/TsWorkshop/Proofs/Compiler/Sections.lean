import TsWorkshop.Proofs.Compiler.Header

/-!
The compiler's output as sections: the lines before the first header, and then each header with the
lines up to the next one. `Sectioned` says that lines are cut so. Every text can be cut in one way,
and its diagnostics are those of the sections, one for each (`ofOutput_sections`): nothing in a text
is lost, merged or taken twice, and texts are read one after another. The induction is on the lines;
what it carries is that the open diagnostic takes the lines before the next header.
-/

namespace TsWorkshop.Diagnostic

open Text

/-! ### Sections -/

/-- A header with the diagnostic that it opens, and the lines up to the next header. -/
structure Section where
  header : List Char
  opened : Diagnostic
  body : List (List Char)

/-- A diagnostic whose message goes on with those of the lines that are indented and not blank, each
behind a line break and without the blanks around it. -/
def continued (d : Diagnostic) (lines : List (List Char)) : Diagnostic :=
  { d with message := join "\n" (d.message ::
      (lines.filter isContinuation).map fun line => String.ofList (trimBlank line)) }

/-- Lines cut into those before the first header, and sections. -/
structure Sectioned (lines front : List (List Char)) (sections : List Section) : Prop where
  all : lines = front ++ sections.flatMap fun s => s.header :: s.body
  front : ∀ line ∈ front, ¬ IsHeader line
  sections : ∀ s ∈ sections, (∃ r : Reading, r.Taken s.header ∧ r.diagnostic = s.opened) ∧
    ∀ line ∈ s.body, ¬ IsHeader line

theorem ofLine?_eq_none_iff (line : List Char) : ofLine? line = none ↔ ¬ IsHeader line := by
  rw [isHeader_iff, not_exists, Option.eq_none_iff_forall_ne_some]

/-- Lines can be cut into sections. -/
theorem exists_sectioned (lines : List (List Char)) :
    ∃ front sections, Sectioned lines front sections := by
  induction lines with
  | nil => exact ⟨[], [], rfl, by simp, by simp⟩
  | cons line rest ih =>
    obtain ⟨front, sections, cut⟩ := ih
    by_cases header : IsHeader line
    · obtain ⟨d, read⟩ := (isHeader_iff line).mp header
      refine ⟨[], ⟨line, d, front⟩ :: sections, by simp [cut.all], by simp, fun s inside => ?_⟩
      rcases List.mem_cons.mp inside with rfl | inside
      · exact ⟨(ofLine?_eq_some_iff line d).mp read, cut.front⟩
      · exact cut.sections s inside
    · refine ⟨line :: front, sections, by simp [cut.all], fun l inside => ?_, cut.sections⟩
      rcases List.mem_cons.mp inside with rfl | inside
      · exact header
      · exact cut.front l inside

/-! ### Reading on -/

/-- A message goes on line by line. -/
theorem continued_cons (d : Diagnostic) (line : List Char) (lines : List (List Char)) :
    d.continued (line :: lines) =
      (if isContinuation line then d.extend line else d).continued lines := by
  cases more : isContinuation line with
  | true =>
    simp only [continued, extend, List.filter_cons_of_pos more, List.map_cons, if_true]
    rw [join_append_left]
    rfl
  | false => simp [continued, more]

/-- The open diagnostic takes the lines before the next header. -/
theorem ofLines_front (last : Option Diagnostic) (front rest : List (List Char))
    (h : ∀ line ∈ front, ¬ IsHeader line) :
    ofLines last (front ++ rest) = ofLines (last.map fun d => d.continued front) rest := by
  induction front generalizing last with
  | nil => cases last <;> rfl
  | cons line front ih =>
    have readOn := ih (if isContinuation line then last.map fun d => d.extend line else last)
      fun l inside => h l (List.mem_cons_of_mem line inside)
    rw [List.cons_append, ofLines, (ofLine?_eq_none_iff line).mpr (h line (by simp))]
    dsimp only
    rw [readOn]
    cases last with
    | none => simp
    | some d =>
      simp only [Option.map_some, continued_cons]
      split <;> rfl

/-- Sections are read one after another. -/
theorem ofLines_flatMap (last : Option Diagnostic) (sections : List Section)
    (h : ∀ s ∈ sections, (∃ r : Reading, r.Taken s.header ∧ r.diagnostic = s.opened) ∧
      ∀ line ∈ s.body, ¬ IsHeader line) :
    ofLines last (sections.flatMap fun s => s.header :: s.body) =
      last.toList ++ sections.map fun s => s.opened.continued s.body := by
  induction sections generalizing last with
  | nil => simp [ofLines]
  | cons s rest ih =>
    obtain ⟨taken, body⟩ := h s (by simp)
    have opens := (ofLine?_eq_some_iff _ _).mpr taken
    rw [List.flatMap_cons, List.cons_append, ofLines, opens]
    dsimp only
    rw [ofLines_front _ _ _ body, ih _ fun t inside => h t (List.mem_cons_of_mem s inside)]
    rfl

theorem ofLines_sectioned (last : Option Diagnostic) (lines front : List (List Char))
    (sections : List Section) (cut : Sectioned lines front sections) :
    ofLines last lines = (last.map fun d => d.continued front).toList ++
      sections.map fun s => s.opened.continued s.body := by
  rw [cut.all, ofLines_front last _ _ cut.front, ofLines_flatMap _ _ cut.sections]

/-- An open diagnostic is not lost. -/
theorem ofLines_some_ne_nil (d : Diagnostic) (lines : List (List Char)) :
    ofLines (some d) lines ≠ [] := by
  obtain ⟨front, sections, cut⟩ := exists_sectioned lines
  rw [ofLines_sectioned _ _ _ _ cut]
  simp

/-- Only the last diagnostic is still open. -/
theorem ofLines_append (last : Option Diagnostic) (lines more : List (List Char)) :
    ofLines last (lines ++ more) =
      (ofLines last lines).dropLast ++ ofLines (ofLines last lines).getLast? more := by
  induction lines generalizing last with
  | nil => cases last <;> rfl
  | cons line lines ih =>
    rw [List.cons_append, ofLines, ofLines]
    cases read : ofLine? line with
    | none => exact ih _
    | some d =>
      have nonempty := ofLines_some_ne_nil d lines
      dsimp only
      rw [ih, List.dropLast_append_of_ne_nil nonempty, List.getLast?_append_of_ne_nil _ nonempty,
        List.append_assoc]

/-- The diagnostics of a text are those of its sections, one for each header in order, whose message
is the text of the header and the further lines before the next header. Texts are read one after
another: a text behind a line break goes on with the last message of the text before it up to its
own first header. -/
theorem ofOutput_sections :
    (∀ output : String,
      (∃ front sections, Sectioned (linesOf output.toList) front sections) ∧
      ∀ front sections, Sectioned (linesOf output.toList) front sections →
        ofOutput output = sections.map fun s => s.opened.continued s.body) ∧
    ∀ (a b : String) (front : List (List Char)) (sections : List Section),
      a.toList.getLast? ≠ some '\r' → Sectioned (linesOf b.toList) front sections →
        ofOutput (a ++ "\n" ++ b) =
          (ofOutput a).dropLast ++ ((ofOutput a).getLast?.map fun d => d.continued front).toList ++
            ofOutput b := by
  have read : ∀ (output : String) front sections,
      Sectioned (linesOf output.toList) front sections →
        ofOutput output = sections.map fun s => s.opened.continued s.body :=
    fun output => ofLines_sectioned none _
  refine ⟨fun output => ⟨exists_sectioned _, read output⟩, ?_⟩
  intro a b front sections carriage cut
  obtain ⟨blank, isBlank, lines⟩ := linesOf_append_feed a.toList b.toList carriage
  have ignored : ∀ last, ofLines last (blank ++ linesOf b.toList) =
      ofLines last (linesOf b.toList) := by
    rcases isBlank with rfl | rfl <;> exact fun last => rfl
  have chars : (a ++ "\n" ++ b).toList = a.toList ++ '\n' :: b.toList := by simp
  rw [ofOutput, chars, lines, List.append_assoc, ofLines_append, ignored,
    ofLines_sectioned _ _ _ _ cut, List.append_assoc, read b front sections cut]
  rfl

/-- The first line of the second text goes on with the message of the first one. -/
theorem ofOutput_sections_resumed :
    let second : Diagnostic :=
      { file := none, line := 0, column := 0, severity := .error, code := 2, message := "z" }
    Sectioned (linesOf " y \n\nerror TS2: z".toList) [" y ".toList, []]
        [⟨"error TS2: z".toList, second, []⟩] ∧
      ofOutput "a.ts(1,7): error TS1: x\n y \n\nerror TS2: z" =
        [{ file := some "a.ts", line := 1, column := 7, severity := .error, code := 1,
           message := "x\ny" }, second] := by
  intro second
  have cut : Sectioned (linesOf " y \n\nerror TS2: z".toList) [" y ".toList, []]
      [⟨"error TS2: z".toList, second, []⟩] := by
    refine ⟨by decide +kernel, ?_, ?_⟩
    · intro line inside
      refine (ofLine?_eq_none_iff line).mp ?_
      revert line
      decide +kernel
    · intro s inside
      rw [List.mem_singleton.mp inside]
      exact ⟨(ofLine?_eq_some_iff _ _).mp (by decide +kernel), by simp⟩
  refine ⟨cut, ?_⟩
  have readOn := ofOutput_sections.2 "a.ts(1,7): error TS1: x" _ _ _ (by decide +kernel) cut
  refine readOn.trans ?_
  decide +kernel

end TsWorkshop.Diagnostic
