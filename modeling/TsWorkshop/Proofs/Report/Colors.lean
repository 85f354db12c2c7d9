import Mathlib.Data.List.Forall2
import TsWorkshop.Lint.Report
import TsWorkshop.Proofs.Text.Style

/-!
Colours are decoration only. An excerpt, a message and the texts of a lint report are put together
from texts without escapes and from painted pieces, so less their style sequences they are what
they are without colours (`erase_colours`): the width of the margin, the padding and the caret do
not depend on colours.
-/

namespace TsWorkshop

open Style

namespace Frame

/-! ### Excerpts -/

theorem unstyled_gutter (width number : Nat) : Unstyled (gutter width number) := by
  have blanks := unstyled_repeated (width - (toString number).toList.length) ' ' (by decide)
  have digits := unstyled_toString number
  unfold gutter Text.padStart
  simp only [unstyled_append]
  exact ⟨⟨by decide, blanks, digits⟩, by decide⟩

theorem unstyled_blankGutter (width number : Nat) : Unstyled (blankGutter width number) := by
  intro inside
  rw [blankGutter, String.toList_ofList] at inside
  obtain ⟨c, among, same⟩ := List.mem_map.mp inside
  split at same
  · exact absurd same (by decide)
  · rw [same] at among
    exact unstyled_gutter width number among

theorem unstyled_padding (line : String) (column : Nat) : Unstyled (padding line column) := by
  intro inside
  rw [padding, String.toList_ofList] at inside
  obtain ⟨c, -, same⟩ := List.mem_map.mp inside
  split at same <;> exact absurd same (by decide)

theorem shows_caret : Shows (caret true) (caret false) :=
  ((Shows.refl "^" (by decide)).paint red).paint bold

/-- The rows of an excerpt show the same with colours and without, one by one. -/
theorem shows_excerpt (width target column number : Nat) (lines : List String)
    (h : ∀ line ∈ lines, Unstyled line) :
    List.Forall₂ Shows (excerpt true width target column number lines)
      (excerpt false width target column number lines) := by
  induction lines generalizing number with
  | nil => exact List.Forall₂.nil
  | cons line rest ih =>
    have more := ih (number + 1) fun other later => h other (List.mem_cons_of_mem _ later)
    have shown : Shows (dim.paint true (gutter width number) ++ line)
        (dim.paint false (gutter width number) ++ line) :=
      ((Shows.refl _ (unstyled_gutter width number)).paint dim).append
        (Shows.refl line (h line List.mem_cons_self))
    have pointed : Shows
        (dim.paint true (blankGutter width number) ++ padding line column ++ caret true)
        (dim.paint false (blankGutter width number) ++ padding line column ++ caret false) :=
      (((Shows.refl _ (unstyled_blankGutter width number)).paint dim).append
        (Shows.refl _ (unstyled_padding line column))).append shows_caret
    unfold excerpt
    by_cases here : number = target
    · simp only [if_pos here]
      exact .cons shown (.cons pointed more)
    · simp only [if_neg here]
      exact .cons shown more

/-- There is an excerpt with colours if there is one without, and it shows the same. -/
theorem shows_source (text : String) (line column : Nat) (unstyled : Unstyled text) :
    Option.Rel Shows (source text line column true) (source text line column false) := by
  unfold source
  dsimp only
  split
  · exact .none
  · refine .some (Shows.join "\n" (by decide) _ _ (shows_excerpt _ _ _ _ _ fun other among => ?_))
    exact unstyled_of_mem_lines text other unstyled
      (List.mem_of_mem_take (List.mem_of_mem_drop among))

/-! ### Messages -/

theorem shows_message (text : Option String) (line column : Nat) (note : String) (fatal : Bool)
    (source : ∀ t ∈ text, Unstyled t) (unstyled : Unstyled note) :
    Shows (message text line column note fatal true)
      (message text line column note fatal false) := by
  have ending : Unstyled (if fatal then " (fatal)" else "") := by
    cases fatal <;> decide
  have marked : Shows
      (red.paint true ">" ++ " " ++ note ++ (if fatal then " (fatal)" else ""))
      (red.paint false ">" ++ " " ++ note ++ (if fatal then " (fatal)" else "")) :=
    (((Shows.refl ">" (by decide)).paint red).append (Shows.refl " " (by decide))).append
      (Shows.refl note unstyled) |>.append (Shows.refl _ ending)
  have excerpts : Option.Rel Shows
      (text.bind fun text => Frame.source text line column true)
      (text.bind fun text => Frame.source text line column false) := by
    cases text with
    | none => exact .none
    | some text => exact shows_source text line column (source text rfl)
  unfold message
  dsimp only
  generalize (text.bind fun text => Frame.source text line column true) = painted at excerpts ⊢
  generalize (text.bind fun text => Frame.source text line column false) = plain at excerpts ⊢
  cases excerpts with
  | none => exact (Shows.refl _ (by decide)).append marked
  | some shown => exact (shown.append (Shows.refl "\n\n" (by decide))).append marked

end Frame

namespace LintResult

/-! ### Reports -/

/-- No style sequence begins in a text that is shown for a file of a report. -/
structure IsUnstyled (r : LintResult) : Prop where
  filePath : Unstyled r.filePath
  text : ∀ text ∈ r.text, Unstyled text
  message : ∀ m ∈ r.messages, Unstyled m.message
  rule : ∀ m ∈ r.messages, ∀ rule ∈ m.ruleId, Unstyled rule

theorem unstyled_header (r : LintResult) (m : LintMessage) (h : r.IsUnstyled)
    (among : m ∈ r.messages) : Unstyled (r.header m) := by
  have line := unstyled_toString m.line
  have column := unstyled_toString m.column
  unfold header
  simp only [unstyled_append]
  refine ⟨⟨⟨⟨⟨h.filePath, by decide⟩, line⟩, by decide⟩, column⟩, ?_⟩
  split
  · rename_i rule named
    simp only [unstyled_append]
    exact ⟨⟨by decide, h.rule m among rule named⟩, by decide⟩
  · decide

theorem shows_blocks (r : LintResult) (h : r.IsUnstyled) :
    List.Forall₂ Shows (r.blocks true) (r.blocks false) := by
  have each (m : LintMessage) (among : m ∈ r.messages) : Shows
      (r.header m ++ "\n" ++ Frame.message r.text m.line m.column m.message m.fatal true)
      (r.header m ++ "\n" ++ Frame.message r.text m.line m.column m.message m.fatal false) :=
    ((Shows.refl _ (unstyled_header r m h among)).append (Shows.refl "\n" (by decide))).append
      (Frame.shows_message r.text m.line m.column m.message m.fatal h.text (h.message m among))
  unfold blocks
  rw [List.forall₂_map_left_iff, List.forall₂_map_right_iff, List.forall₂_same]
  exact each

theorem shows_report (results : List LintResult) (h : ∀ r ∈ results, r.IsUnstyled) :
    List.Forall₂ Shows (results.flatMap (blocks true)) (results.flatMap (blocks false)) := by
  induction results with
  | nil => exact List.Forall₂.nil
  | cons r rest ih =>
    have more := ih fun other later => h other (List.mem_cons_of_mem _ later)
    rw [List.flatMap_cons, List.flatMap_cons]
    exact List.rel_append (shows_blocks r (h r List.mem_cons_self)) more

end LintResult

namespace Frame

/-! ### Decoration -/

/-- Less their style sequences, the excerpt of a source, a message below its excerpt, and the texts
of a lint report with colours are exactly those without, if no text in them has an escape of its
own. -/
theorem erase_colours :
    (∀ (text : String) (line column : Nat), Unstyled text →
      (source text line column true).map erase = source text line column false) ∧
    (∀ (text : Option String) (line column : Nat) (note : String) (fatal : Bool),
      (∀ t ∈ text, Unstyled t) → Unstyled note →
        erase (message text line column note fatal true) =
          message text line column note fatal false) ∧
    ∀ results : List LintResult, (∀ r ∈ results, r.IsUnstyled) →
      (results.flatMap (LintResult.blocks true)).map erase =
        results.flatMap (LintResult.blocks false) := by
  refine ⟨fun text line column unstyled => ?_, fun text line column note fatal inText inNote => ?_,
    fun results unstyled => ?_⟩
  · exact map_erase_option _ _ (shows_source text line column unstyled)
  · exact (shows_message text line column note fatal inText inNote).erase_eq
  · exact map_erase _ _ (LintResult.shows_report results unstyled)

/-- A fatal message of a rule, about the second line of a file. -/
def fatalResult : LintResult :=
  { filePath := "a.ts", messages := [⟨some "semi", 2, "Missing.", 2, 3, true⟩]
    errorCount := 1, warningCount := 0, output := none, source := some "a\n\tb(c)\n" }

/-- The painted caret of a fatal message stands below the parenthesis, behind a tab and a space. -/
theorem erase_colours_fatal :
    let excerpt := " 1 | a\n 2 | \tb(c)\n   | \t ^"
    let painted := "\x1b[2m 1 | \x1b[0ma\n\x1b[2m 2 | \x1b[0m\tb(c)\n\x1b[2m   | \x1b[0m\t " ++
      "\x1b[1m\x1b[31m^\x1b[39m\x1b[0m"
    (source "a\n\tb(c)\n" 2 3 true = some painted ∧ erase painted = excerpt) ∧
      erase (message (some "a\n\tb(c)\n") 2 3 "Missing." true true) =
        excerpt ++ "\n\n> Missing. (fatal)" ∧
      ([fatalResult].flatMap (LintResult.blocks true)).map erase =
        ["a.ts:2:3 (semi)\n" ++ excerpt ++ "\n\n> Missing. (fatal)"] := by
  intro excerpt painted
  have unstyled : Unstyled "a\n\tb(c)\n" := by decide
  have result : fatalResult.IsUnstyled := ⟨by decide, by decide, by decide, by decide⟩
  obtain ⟨excerpts, messages, reports⟩ := erase_colours
  have coloured : source "a\n\tb(c)\n" 2 3 true = some painted := by decide +kernel
  have erased := excerpts "a\n\tb(c)\n" 2 3 unstyled
  rw [coloured, show source "a\n\tb(c)\n" 2 3 false = some excerpt by decide +kernel] at erased
  refine ⟨⟨coloured, Option.some.inj erased⟩, ?_, ?_⟩
  · rw [messages (some "a\n\tb(c)\n") 2 3 "Missing." true (by decide) (by decide)]
    decide +kernel
  · rw [reports [fatalResult] (by simpa using result)]
    decide +kernel

end Frame

end TsWorkshop
