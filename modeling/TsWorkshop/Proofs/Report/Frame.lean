import TsWorkshop.Number.Word
import TsWorkshop.Proofs.Text.Pieces
import TsWorkshop.Report.Frame

/-!
Where the caret of an excerpt points. An excerpt without colours, taken apart into its rows, is the
lines at most two away from the target, each behind a margin of one length, and right behind the
target the caret below the reported column (`source_points_at`). The numbers that select these
lines can be computed with words of 64 bits: no sum leaves their range and no bound leaves the
list (`sourceInWords_eq`).
-/

namespace TsWorkshop

namespace Word

/-! ### Checked sums, differences and parts -/

/-- What stops a computation with words of 64 bits. -/
inductive Fault where
  /-- A sum or a difference is no word. -/
  | overflow
  /-- The bounds of a part are not in order or not in the list. -/
  | outOfRange
  deriving DecidableEq, Repr

/-- The sum, if it is a word. -/
def sum (a b : Nat) : Except Fault Nat :=
  if a + b ≤ unsignedMax then .ok (a + b) else .error .overflow

/-- The difference, if it is a word. -/
def difference (a b : Nat) : Except Fault Nat := if b ≤ a then .ok (a - b) else .error .overflow

/-- The items from `start` up to `stop`, if there are such items. -/
def part {α : Type} (items : List α) (start stop : Nat) : Except Fault (List α) :=
  if start ≤ stop ∧ stop ≤ items.length then .ok ((items.take stop).drop start)
  else .error .outOfRange

theorem sum_eq_ok (a b : Nat) (h : a + b ≤ unsignedMax) : sum a b = .ok (a + b) := if_pos h

theorem difference_eq_ok (a b : Nat) (h : b ≤ a) : difference a b = .ok (a - b) := if_pos h

theorem part_eq_ok {α : Type} (items : List α) (start stop : Nat)
    (h : start ≤ stop ∧ stop ≤ items.length) :
    part items start stop = .ok ((items.take stop).drop start) := if_pos h

end Word

namespace Frame

/-! ### What an excerpt shows -/

/-- The lines that are at most two away from the target, each with its number. -/
def window (lines : List String) (target : Nat) : List (String × Nat) :=
  (lines.zipIdx 1).filter fun (_, number) => target ≤ number + 2 ∧ number ≤ target + 2

/-- The number of the last line of the window. -/
def lastShown (lines : List String) (target : Nat) : Nat := min (target + 2) lines.length

/-- A number between blanks and a bar, aligned with the number `last`. -/
def margin (last number : Nat) : String :=
  " " ++ Text.repeated ((toString last).length - (toString number).length) ' ' ++
    toString number ++ " | "

/-- Blanks and a bar, aligned with the number `last`. -/
def blankMargin (last : Nat) : String := " " ++ Text.repeated (toString last).length ' ' ++ " | "

/-- The rows of one line: the line behind its number and, if it is the target, the caret behind
the padding. -/
def rows (last target : Nat) (padding : String) (entry : String × Nat) : List String :=
  (margin last entry.2 ++ entry.1) ::
    if entry.2 = target then [blankMargin last ++ padding ++ "^"] else []

/-- What leads up to a column, counted from one, below a line: a tab below each tab and a space
below each other character, as far as the line goes. -/
structure LeadsTo (line : String) (column : Nat) (padding : String) : Prop where
  length : padding.length = min (max column 1 - 1) line.length
  below : ∀ (i : Nat) (c : Char), padding.toList[i]? = some c →
    c = if line.toList[i]? = some '\t' then '\t' else ' '

/-! ### Margins -/

/-- A number has no more digits than a larger one. -/
theorem length_toString_mono (number last : Nat) (h : number ≤ last) :
    (toString number).length ≤ (toString last).length := by
  have positive : 0 < last.repr.length := Nat.length_repr_pos
  have below : last < 10 ^ last.repr.length := (Nat.length_repr_le_iff positive).mp (Nat.le_refl _)
  exact (Nat.length_repr_le_iff positive).mpr (Nat.lt_of_le_of_lt h below)

theorem length_margin (last number : Nat) (h : number ≤ last) :
    (margin last number).length = (blankMargin last).length := by
  have := length_toString_mono number last h
  simp only [margin, blankMargin, Text.repeated, String.length_append, String.length_ofList,
    List.length_replicate]
  omega

theorem gutter_eq_margin (last number : Nat) :
    gutter (toString last).length number = margin last number := by
  simp only [gutter, margin, Text.padStart, String.length_toList, String.append_assoc]

theorem isDigit_of_mem_toString (number : Nat) (c : Char) (h : c ∈ (toString number).toList) :
    c.isDigit = true := by
  rw [Nat.toString_eq_ofList_toDigits, String.toList_ofList] at h
  exact Text.isDigit_of_mem_toDigits number c h

/-- With blanks for its digits, a margin is the blank one. -/
theorem blankGutter_eq (last number : Nat) (h : number ≤ last) :
    blankGutter (toString last).length number = blankMargin last := by
  have digits : (toString number).toList.map (fun c => if c.isDigit then ' ' else c) =
      List.replicate (toString number).length ' ' := by
    rw [← String.length_toList, ← List.map_const']
    refine List.map_congr_left fun c inside => ?_
    rw [isDigit_of_mem_toString number c inside, if_pos rfl]
  have width : (toString last).length - (toString number).length + (toString number).length =
      (toString last).length := Nat.sub_add_cancel (length_toString_mono number last h)
  have front : (" ".toList.map fun c => if c.isDigit then ' ' else c) = " ".toList := by decide
  have ending : (" | ".toList.map fun c => if c.isDigit then ' ' else c) = " | ".toList := by
    decide
  rw [blankGutter, gutter_eq_margin, ← String.toList_inj]
  simp only [margin, blankMargin, Text.repeated, String.toList_append, String.toList_ofList,
    List.map_append, List.map_replicate, digits, front, ending, ite_self]
  rw [List.append_assoc " ".toList, List.replicate_append_replicate, width]

/-! ### Rows -/

theorem excerpt_eq_flatMap (last target column number : Nat) (lines : List String)
    (h : number + lines.length ≤ last + 1) :
    excerpt false (toString last).length target column number lines =
      (lines.zipIdx number).flatMap fun entry =>
        rows last target (padding entry.1 column) entry := by
  induction lines generalizing number with
  | nil => rfl
  | cons line lines ih =>
    rw [List.length_cons] at h
    rw [excerpt, List.zipIdx_cons, List.flatMap_cons, ih (number + 1) (by omega), rows,
      gutter_eq_margin, blankGutter_eq last number (by omega)]
    split <;> rfl

theorem filter_zipIdx_lt {α : Type} (items : List α) (first stop : Nat) :
    (items.zipIdx first).filter (fun entry => entry.2 < stop) =
      (items.take (stop - first)).zipIdx first := by
  induction items generalizing first with
  | nil => simp
  | cons item items ih =>
    rw [List.zipIdx_cons, List.filter_cons, ih]
    by_cases h : first < stop
    · rw [show stop - first = stop - (first + 1) + 1 by omega]
      simp [h, List.zipIdx_cons]
    · rw [show stop - first = 0 by omega, show stop - (first + 1) = 0 by omega]
      simp [h]

theorem filter_zipIdx_le {α : Type} (items : List α) (first start : Nat) :
    (items.zipIdx first).filter (fun entry => start ≤ entry.2) =
      (items.drop (start - first)).zipIdx (max start first) := by
  induction items generalizing first with
  | nil => simp
  | cons item items ih =>
    rw [List.zipIdx_cons, List.filter_cons, ih]
    by_cases h : start ≤ first
    · rw [show start - first = 0 by omega, show start - (first + 1) = 0 by omega,
        Nat.max_eq_right h, Nat.max_eq_right (by omega)]
      simp [h, List.zipIdx_cons]
    · rw [show start - first = start - (first + 1) + 1 by omega, Nat.max_eq_left (by omega),
        Nat.max_eq_left (by omega)]
      simp [h]

/-- The window is the part of the lines that is cut out for an excerpt. -/
theorem window_eq_zipIdx (lines : List String) (target : Nat) (h : 1 ≤ target) :
    window lines target =
      ((lines.take (lastShown lines target)).drop (target - 3)).zipIdx (target - 3 + 1) := by
  have parts : window lines target =
      ((lines.zipIdx 1).filter fun entry => entry.2 < target + 3).filter
        fun entry => target - 2 ≤ entry.2 := by
    rw [List.filter_filter, window]
    refine List.filter_congr fun entry _ => ?_
    rw [← Bool.decide_and, decide_eq_decide]
    omega
  rw [parts, filter_zipIdx_lt, filter_zipIdx_le, lastShown, ← List.take_eq_take_min,
    show max (target - 2) 1 = target - 3 + 1 by omega]
  rfl

theorem of_mem_window (lines : List String) (target : Nat) (entry : String × Nat)
    (h : entry ∈ window lines target) :
    lines[entry.2 - 1]? = some entry.1 ∧ entry.2 ≤ lastShown lines target := by
  obtain ⟨among, near⟩ := List.mem_filter.mp h
  obtain ⟨-, found⟩ := List.mk_mem_zipIdx_iff_le_and_getElem?_sub.mp among
  have inside := (List.mem_zipIdx among).2.1
  have below := (of_decide_eq_true near).2
  exact ⟨found, Nat.le_min.mpr ⟨below, by omega⟩⟩

theorem target_mem_window (lines : List String) (target : Nat) (line : String) (h : 1 ≤ target)
    (found : lines[target - 1]? = some line) : (line, target) ∈ window lines target := by
  refine List.mem_filter.mpr ⟨List.mk_mem_zipIdx_iff_le_and_getElem?_sub.mpr ⟨h, found⟩, ?_⟩
  exact decide_eq_true ⟨by omega, by omega⟩

/-! ### The caret -/

theorem leadsTo_padding (line : String) (column : Nat) :
    LeadsTo line column (padding line column) where
  length := by
    rw [padding, String.length_ofList, List.length_map, List.length_take, String.length_toList]
    omega
  below := by
    intro i c found
    rw [padding, String.toList_ofList, List.getElem?_map] at found
    obtain ⟨above, taken, rfl⟩ := Option.map_eq_some_iff.mp found
    have here : line.toList[i]? = some above := by
      rw [List.getElem?_take] at taken
      split at taken
      · exact taken
      · cases taken
    simp only [here, Option.some.injEq]

theorem LeadsTo.feed_not_mem {line padding : String} {column : Nat}
    (leads : LeadsTo line column padding) : '\n' ∉ padding.toList := by
  intro inside
  obtain ⟨i, found⟩ := List.getElem?_of_mem inside
  have isBlank := leads.below i '\n' found
  split at isBlank <;> revert isBlank <;> decide

/-- No row is broken by a line feed of its own. -/
theorem feed_not_mem_rows (last target : Nat) (padding : String) (entry : String × Nat)
    (inLine : '\n' ∉ entry.1.toList) (inPadding : '\n' ∉ padding.toList) :
    ∀ row ∈ rows last target padding entry, '\n' ∉ row.toList := by
  have inNumber : '\n' ∉ Nat.toDigits 10 entry.2 := fun inside =>
    absurd (Text.isDigit_of_mem_toDigits entry.2 '\n' inside) (by decide)
  intro row inside
  rcases List.mem_cons.mp inside with rfl | isCaret
  · simp [margin, Text.repeated, inNumber, inLine]
  · split at isCaret
    · rw [List.mem_singleton.mp isCaret]
      simp [blankMargin, Text.repeated, inPadding]
    · cases isCaret

theorem source_eq_none_iff (text : String) (line column : Nat) (colors : Bool) :
    source text line column colors = none ↔
      Text.lines text = [] ∨ line = 0 ∨ (Text.lines text).length < line := by
  have empty : Text.lines text = [] → line = 0 ∨ (Text.lines text).length < line := by
    intro none
    rw [none, List.length_nil]
    omega
  simp only [source, ite_eq_left_iff, reduceCtorEq, imp_false, not_not]
  exact ⟨Or.inr, fun outside => outside.elim empty id⟩

theorem source_eq_excerpt (text : String) (line column : Nat) (colors : Bool) (positive : 1 ≤ line)
    (inside : line ≤ (Text.lines text).length) :
    source text line column colors = some (Text.join "\n"
      (excerpt colors (toString (lastShown (Text.lines text) line)).length line column
        (line - 3 + 1)
        (((Text.lines text).take (lastShown (Text.lines text) line)).drop (line - 3)))) := by
  rw [source, if_neg (by omega)]
  rfl

/-- An excerpt is made of the rows of the window. -/
theorem source_eq_rows (text : String) (line column : Nat) (target : String)
    (positive : 1 ≤ line) (found : (Text.lines text)[line - 1]? = some target) :
    source text line column false = some (Text.join "\n" ((window (Text.lines text) line).flatMap
      (rows (lastShown (Text.lines text) line) line (padding target column)))) := by
  have inside := (List.getElem?_eq_some_iff.mp found).1
  have shown : line - 3 + 1 + (((Text.lines text).take (lastShown (Text.lines text) line)).drop
      (line - 3)).length ≤ lastShown (Text.lines text) line + 1 := by
    rw [List.length_drop, List.length_take, lastShown]
    omega
  have atTarget : ∀ entry ∈ window (Text.lines text) line,
      rows (lastShown (Text.lines text) line) line (padding entry.1 column) entry =
        rows (lastShown (Text.lines text) line) line (padding target column) entry := by
    intro entry among
    have stands := (of_mem_window _ line entry among).1
    by_cases same : entry.2 = line
    · rw [same, found] at stands
      rw [Option.some.inj stands]
    · simp only [rows, if_neg same]
  rw [source_eq_excerpt text line column false positive (by omega),
    excerpt_eq_flatMap _ _ _ _ _ shown, ← window_eq_zipIdx _ line positive,
    List.flatMap_congr atTarget]

/-- The rows of the window are found again between the line feeds of an excerpt. -/
theorem split_source (text : String) (line column : Nat) (target out : String)
    (positive : 1 ≤ line) (found : (Text.lines text)[line - 1]? = some target)
    (made : source text line column false = some out) :
    Text.split '\n' out = (window (Text.lines text) line).flatMap
      (rows (lastShown (Text.lines text) line) line (padding target column)) := by
  rw [source_eq_rows text line column target positive found] at made
  rw [← Option.some.inj made]
  refine Text.split_join '\n' _ ?_ ?_
  · refine List.ne_nil_of_mem (List.mem_flatMap.mpr ⟨(target, line), ?_, List.mem_cons_self ..⟩)
    exact target_mem_window _ line target positive found
  · intro row among
    obtain ⟨entry, isShown, isRow⟩ := List.mem_flatMap.mp among
    have inText := List.mem_of_getElem? (of_mem_window _ line entry isShown).1
    exact feed_not_mem_rows _ line _ entry (Text.not_mem_of_mem_lines text entry.1 inText)
      (leadsTo_padding target column).feed_not_mem row isRow

/-! ### The numbers of an excerpt as words -/

/-- The lines of an excerpt from the index `index` of its lines on, with the number of each line
summed up from the number of lines before the excerpt, one, and the index. -/
def excerptInWords (width target column start : Nat) :
    Nat → List String → Except Word.Fault (List String)
  | _, [] => .ok []
  | index, line :: rest => do
    let number ← Word.sum (← Word.sum start 1) index
    let more ← excerptInWords width target column start (← Word.sum index 1) rest
    return excerpt false width target column number [line] ++ more

/-- The excerpt of a source without colours, where sums, differences and parts are checked. The
number of lines that it will have is computed too, for the room that they take. -/
def sourceInWords (text : String) (line column : Nat) : Except Word.Fault (Option String) :=
  let lines := Text.lines text
  if lines = [] ∨ line = 0 ∨ lines.length < line then return none
  else do
    let start := line - 3
    let stop := min (← Word.sum line 2) lines.length
    let width := (toString stop).length
    let _room ← Word.sum (← Word.difference stop start) 1
    let shown ← Word.part lines start stop
    return some (Text.join "\n" (← excerptInWords width line column start 0 shown))

theorem excerptInWords_eq (width target column start index : Nat) (lines : List String)
    (h : start + 1 + index + lines.length ≤ Word.unsignedMax) :
    excerptInWords width target column start index lines =
      .ok (excerpt false width target column (start + 1 + index) lines) := by
  induction lines generalizing index with
  | nil => rfl
  | cons line lines ih =>
    rw [List.length_cons] at h
    have later := ih (index + 1) (by omega)
    rw [excerptInWords, Word.sum_eq_ok start 1 (by omega)]
    simp only [bind, Except.bind, Word.sum_eq_ok (start + 1) index (by omega),
      Word.sum_eq_ok index 1 (by omega), later, excerpt]
    split <;> rfl

/-- No text in memory has more bytes than the largest word with sign. Within that bound no number of
an excerpt leaves the words, and no bound leaves the lines. -/
theorem sourceInWords_eq (text : String) (line column : Nat)
    (fits : (text.utf8ByteSize : Int) ≤ Word.signedMax) :
    sourceInWords text line column = .ok (source text line column false) := by
  have few := Text.length_lines_le text
  have wide : Word.unsignedMax = 2 * Word.signedMax.toNat + 1 := by decide
  by_cases outside : Text.lines text = [] ∨ line = 0 ∨ (Text.lines text).length < line
  · rw [sourceInWords, if_pos outside, (source_eq_none_iff text line column false).mpr outside]
    rfl
  · rw [sourceInWords, if_neg outside]
    obtain ⟨-, nonzero, inside⟩ := (not_or.trans (and_congr_right' not_or)).mp outside
    have stop : lastShown (Text.lines text) line = min (line + 2) (Text.lines text).length := rfl
    have sum := Word.sum_eq_ok line 2 (by omega)
    have difference := Word.difference_eq_ok (lastShown (Text.lines text) line) (line - 3)
      (by omega)
    have room := Word.sum_eq_ok (lastShown (Text.lines text) line - (line - 3)) 1 (by omega)
    have shown := Word.part_eq_ok (Text.lines text) (line - 3) (lastShown (Text.lines text) line)
      (by omega)
    have made := excerptInWords_eq (toString (lastShown (Text.lines text) line)).length line column
      (line - 3) 0 (((Text.lines text).take (lastShown (Text.lines text) line)).drop (line - 3))
      (by rw [List.length_drop, List.length_take]; omega)
    rw [source_eq_excerpt text line column false (by omega) (by omega)]
    simp only [bind, Except.bind, sum, ← stop, difference, room, shown, made]
    rfl

/-! ### The position -/

/-- There is no excerpt exactly if there is no such line. Otherwise its rows are the lines of the
window behind margins of one length, and the caret stands right below the target, behind what leads
up to the column. In a text that fits into the address space, all of this is computed with words. -/
theorem source_points_at (text : String) (line column : Nat) :
    (source text line column false = none ↔
      Text.lines text = [] ∨ line = 0 ∨ (Text.lines text).length < line) ∧
    (∀ out, source text line column false = some out → ∃ target padding,
      (Text.lines text)[line - 1]? = some target ∧ LeadsTo target column padding ∧
      Text.split '\n' out = (window (Text.lines text) line).flatMap
        (rows (lastShown (Text.lines text) line) line padding) ∧
      ∀ entry ∈ window (Text.lines text) line,
        (margin (lastShown (Text.lines text) line) entry.2).length =
          (blankMargin (lastShown (Text.lines text) line)).length) ∧
    ((text.utf8ByteSize : Int) ≤ Word.signedMax →
      sourceInWords text line column = .ok (source text line column false)) := by
  refine ⟨source_eq_none_iff text line column false, ?_, sourceInWords_eq text line column⟩
  intro out made
  have isMade : source text line column false ≠ none := by simp [made]
  rw [Ne, source_eq_none_iff, not_or, not_or] at isMade
  obtain ⟨-, nonzero, inside⟩ := isMade
  have positive : 1 ≤ line := Nat.pos_of_ne_zero nonzero
  have found : (Text.lines text)[line - 1]? = some (Text.lines text)[line - 1] :=
    List.getElem?_eq_getElem (by omega)
  refine ⟨_, _, found, leadsTo_padding _ column,
    split_source text line column _ out positive found made, ?_⟩
  intro entry among
  exact length_margin _ entry.2 (of_mem_window _ line entry among).2

/-- The caret stands below the parenthesis, behind a tab and a letter of two bytes. -/
theorem source_points_at_parenthesis :
    let text := "let a = 1;\r\n\té(x)\nb\n"
    let out := " 1 | let a = 1;\n 2 | \té(x)\n   | \t ^\n 3 | b"
    source text 2 3 false = some out ∧ (text.utf8ByteSize : Int) ≤ Word.signedMax ∧
      sourceInWords text 2 3 = .ok (some out) ∧
      ∃ target padding, (Text.lines text)[1]? = some target ∧ LeadsTo target 3 padding ∧
        Text.split '\n' out = (window (Text.lines text) 2).flatMap (rows 3 2 padding) := by
  intro text out
  have made : source text 2 3 false = some out := by decide +kernel
  have fits : (text.utf8ByteSize : Int) ≤ Word.signedMax := by decide +kernel
  have last : lastShown (Text.lines text) 2 = 3 := by decide +kernel
  obtain ⟨-, shows, inWords⟩ := source_points_at text 2 3
  obtain ⟨target, padding, found, leads, isSplit, -⟩ := shows out made
  rw [last] at isSplit
  rw [made] at inWords
  exact ⟨made, fits, inWords fits, target, padding, found, leads, isSplit⟩

end Frame

end TsWorkshop
