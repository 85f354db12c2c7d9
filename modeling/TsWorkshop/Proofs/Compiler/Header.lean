import TsWorkshop.Proofs.Compiler.Diagnostic

/-!
The pattern of a header, stated without its reader. A `Reading` is a way to read a line as a header;
a line can have several, since a file name may hold whatever looks like a place. The reading that
counts has a place if one does, and then the shortest file name (`Reading.Taken`). The reader finds
exactly that one (`ofLine?_eq_some_iff`), so it finds a diagnostic in exactly the lines that are
headers (`isHeader_iff`).
-/

namespace TsWorkshop.Diagnostic

open Text Printout

/-! ### The pattern -/

/-- `severity TScode: text`. -/
def bodyChars (severity : Severity) (code text : List Char) : List Char :=
  severity.name.toList ++ " TS".toList ++ code ++ ": ".toList ++ text

/-- A line read as a header: its file, line and column if it begins with a place, its severity, the
digits of its code, and its text. -/
structure Reading where
  place : Option (List Char × List Char × List Char)
  severity : Severity
  code : List Char
  text : List Char

namespace Reading

/-- `file(line,column): `, if there is a place. -/
def placeChars : Option (List Char × List Char × List Char) → List Char
  | none => []
  | some (file, line, column) => file ++ '(' :: line ++ ',' :: column ++ placeEnd

def chars (r : Reading) : List Char := placeChars r.place ++ bodyChars r.severity r.code r.text

structure Proper (r : Reading) : Prop where
  code : IsNumeral r.code
  place : ∀ file line column, r.place = some (file, line, column) →
    file ≠ [] ∧ IsNumeral line ∧ IsNumeral column

/-- What is read. A number that is too large, or not of ASCII digits, counts as 0. -/
def diagnostic (r : Reading) : Diagnostic :=
  { file := r.place.map fun (file, _, _) => String.ofList file
    line := (r.place.map fun (_, line, _) => boundedNumber Word.unsignedMax line).getD 0
    column := (r.place.map fun (_, _, column) => boundedNumber Word.unsignedMax column).getD 0
    severity := r.severity
    code := boundedNumber Word.unsignedMax32 r.code
    message := String.ofList r.text }

/-- The reading that counts among those of a line: one with a place comes before one without, and
a shorter file name before a longer one. -/
structure Taken (line : List Char) (r : Reading) : Prop where
  proper : r.Proper
  spells : r.chars = line
  first : ∀ other : Reading, other.Proper → other.chars = line →
    ∀ file' line' column', other.place = some (file', line', column') →
      ∃ file line column, r.place = some (file, line, column) ∧ file.length ≤ file'.length

end Reading

/-- A line that matches the pattern of a header. -/
def IsHeader (line : List Char) : Prop := ∃ r : Reading, r.Proper ∧ r.chars = line

/-! ### Its parts -/

/-- The name of a severity is found at the start. -/
theorem eq_of_severityAt (cs : List Char) (severity : Severity) (rest : List Char)
    (h : ((stripStart "error".toList cs).map fun rest => (Severity.error, rest)).or
      (((stripStart "warning".toList cs).map fun rest => (Severity.warning, rest)).or
        ((stripStart "message".toList cs).map fun rest => (Severity.message, rest))) =
          some (severity, rest)) : cs = severity.name.toList ++ rest := by
  simp only [Option.or_eq_some_iff, Option.map_eq_some_iff, Prod.mk.injEq] at h
  rcases h with ⟨_, found, rfl, rfl⟩ | ⟨-, ⟨_, found, rfl, rfl⟩ | ⟨-, _, found, rfl, rfl⟩⟩ <;>
    exact eq_append_of_stripStart _ _ _ found

theorem body?_eq_some_iff (cs : List Char) (severity : Severity) (code : Nat) (text : List Char) :
    body? cs = some (severity, code, text) ↔ ∃ digits, IsNumeral digits ∧
      boundedNumber Word.unsignedMax32 digits = code ∧ bodyChars severity digits text = cs := by
  constructor
  · intro h
    simp only [body?, Option.bind_eq_bind, Option.bind_eq_some_iff, Prod.exists] at h
    obtain ⟨found, behind, named, marked, mark, digits, behindCode, hcode, after, colon, h⟩ := h
    obtain ⟨rfl, rfl, rfl⟩ := Option.some.inj h
    obtain rfl := eq_of_severityAt cs _ _ named
    obtain rfl := eq_append_of_stripStart _ _ _ mark
    obtain ⟨rfl, numeral⟩ := of_digits?_eq_some _ _ _ hcode
    obtain rfl := eq_append_of_stripStart _ _ _ colon
    exact ⟨digits, numeral, rfl, by simp [bodyChars]⟩
  · rintro ⟨digits, numeral, rfl, rfl⟩
    have read := digits?_append digits ':' (' ' :: text) numeral (by decide)
    cases severity <;> simp [body?, bodyChars, Severity.name, stripStart, read]

theorem place?_eq_some_iff (cs : List Char) (line column : Nat) (severity : Severity) (code : Nat)
    (text : List Char) :
    place? cs = some (line, column, severity, code, text) ↔
      ∃ lineDigits columnDigits body, IsNumeral lineDigits ∧ IsNumeral columnDigits ∧
        boundedNumber Word.unsignedMax lineDigits = line ∧
        boundedNumber Word.unsignedMax columnDigits = column ∧
        body? body = some (severity, code, text) ∧
        '(' :: lineDigits ++ ',' :: columnDigits ++ placeEnd ++ body = cs := by
  constructor
  · intro h
    simp only [place?, Option.bind_eq_bind, Option.bind_eq_some_iff, Prod.exists] at h
    obtain ⟨inside, opening, lineDigits, behindLine, hline, behindComma, comma, columnDigits,
      behindColumn, hcolumn, body, closing, severity', code', text', hbody, h⟩ := h
    obtain ⟨rfl, rfl, rfl, rfl, rfl⟩ := Option.some.inj h
    obtain rfl := eq_append_of_stripStart _ _ _ opening
    obtain ⟨rfl, lineNumeral⟩ := of_digits?_eq_some _ _ _ hline
    obtain rfl := eq_append_of_stripStart _ _ _ comma
    obtain ⟨rfl, columnNumeral⟩ := of_digits?_eq_some _ _ _ hcolumn
    obtain rfl := eq_append_of_stripStart _ _ _ closing
    exact ⟨lineDigits, columnDigits, body, lineNumeral, columnNumeral, rfl, rfl, hbody,
      by simp [placeEnd]⟩
  · rintro ⟨lineDigits, columnDigits, body, hline, hcolumn, rfl, rfl, hbody, rfl⟩
    have readLine := digits?_append lineDigits ',' (columnDigits ++ placeEnd ++ body) hline
      (by decide)
    have readColumn := digits?_append columnDigits ')' (':' :: ' ' :: body) hcolumn (by decide)
    simp only [placeEnd] at readLine ⊢
    simp_all [place?, stripStart]

/-! ### Readings -/

/-- A place behind a file name makes a reading. -/
theorem exists_reading (file rest : List Char) (line column : Nat) (severity : Severity)
    (code : Nat) (text : List Char) (nonempty : file ≠ [])
    (here : place? rest = some (line, column, severity, code, text)) :
    ∃ r : Reading, r.Proper ∧ r.chars = file ++ rest ∧
      (∃ lineDigits columnDigits, r.place = some (file, lineDigits, columnDigits)) ∧
      r.diagnostic =
        ⟨some (String.ofList file), line, column, severity, code, String.ofList text⟩ := by
  obtain ⟨lineDigits, columnDigits, body, hline, hcolumn, rfl, rfl, hbody, rfl⟩ :=
    (place?_eq_some_iff _ _ _ _ _ _).mp here
  obtain ⟨digits, hcode, rfl, rfl⟩ := (body?_eq_some_iff _ _ _ _).mp hbody
  refine ⟨⟨some (file, lineDigits, columnDigits), severity, digits, text⟩, ⟨hcode, ?_⟩, ?_,
    ⟨_, _, rfl⟩, rfl⟩
  · rintro _ _ _ ⟨⟩
    exact ⟨nonempty, hline, hcolumn⟩
  · simp [Reading.chars, Reading.placeChars]

/-- Behind the file name of a reading stands a place. -/
theorem Reading.exists_place? (r : Reading) (proper : r.Proper)
    (file lineDigits columnDigits : List Char)
    (place : r.place = some (file, lineDigits, columnDigits)) :
    ∃ rest line column severity code text, r.chars = file ++ rest ∧
      place? rest = some (line, column, severity, code, text) ∧
      r.diagnostic =
        ⟨some (String.ofList file), line, column, severity, code, String.ofList text⟩ := by
  obtain ⟨-, hline, hcolumn⟩ := proper.place file lineDigits columnDigits place
  have hbody := (body?_eq_some_iff _ r.severity _ r.text).mpr ⟨r.code, proper.code, rfl, rfl⟩
  have here := (place?_eq_some_iff _ _ _ _ _ _).mpr
    ⟨lineDigits, columnDigits, _, hline, hcolumn, rfl, rfl, hbody, rfl⟩
  refine ⟨_, _, _, _, _, _, ?_, here, by simp [diagnostic, place]⟩
  simp [chars, placeChars, place]

/-- A reading without a place is the severity and what stands behind it. -/
theorem Reading.body?_chars (r : Reading) (proper : r.Proper) (bare : r.place = none) :
    body? r.chars = some (r.severity, boundedNumber Word.unsignedMax32 r.code, r.text) := by
  refine (body?_eq_some_iff _ _ _ _).mpr ⟨r.code, proper.code, rfl, ?_⟩
  rw [chars, bare, placeChars, List.nil_append]

/-- At most one reading of a line counts. -/
theorem Reading.Taken.unique (line : List Char) (r r' : Reading) (taken : r.Taken line)
    (taken' : r'.Taken line) : r.diagnostic = r'.diagnostic := by
  cases place : r.place with
  | none =>
    have bare : r'.place = none := by
      refine Option.eq_none_iff_forall_ne_some.mpr fun place' isPlace => ?_
      obtain ⟨_, _, _, found, -⟩ := taken.first r' taken'.proper taken'.spells _ _ _ isPlace
      rw [place] at found
      cases found
    have same := r.body?_chars taken.proper place
    rw [taken.spells, ← taken'.spells, r'.body?_chars taken'.proper bare, Option.some.injEq,
      Prod.mk.injEq, Prod.mk.injEq] at same
    simp [diagnostic, place, bare, same]
  | some found =>
    obtain ⟨file, lineDigits, columnDigits⟩ := found
    obtain ⟨file', lineDigits', columnDigits', place', shorter⟩ :=
      taken'.first r taken.proper taken.spells _ _ _ place
    obtain ⟨_, _, _, isPlace, shorter'⟩ := taken.first r' taken'.proper taken'.spells _ _ _ place'
    rw [place, Option.some.injEq, Prod.mk.injEq] at isPlace
    rw [← isPlace.1] at shorter'
    obtain ⟨rest, _, _, _, _, _, same, here, reads⟩ := r.exists_place? taken.proper _ _ _ place
    obtain ⟨rest', _, _, _, _, _, same', here', reads'⟩ :=
      r'.exists_place? taken'.proper _ _ _ place'
    rw [taken.spells] at same
    rw [taken'.spells, same] at same'
    obtain ⟨rfl, rfl⟩ := List.append_inj same' (Nat.le_antisymm shorter' shorter)
    rw [here, Option.some.injEq] at here'
    obtain ⟨rfl, rfl, rfl, rfl, rfl⟩ := here'
    rw [reads, reads']

/-! ### The reader -/

/-- A name that is followed by a place, where none begins behind its first character, goes on. -/
theorem cons_of_place?_eq_none (c : Char) (cs file rest : List Char) (here : place? cs = none)
    (nonempty : file ≠ []) (same : c :: cs = file ++ rest) (placed : place? rest ≠ none) :
    ∃ more, more ≠ [] ∧ file = c :: more ∧ cs = more ++ rest := by
  cases file with
  | nil => exact absurd rfl nonempty
  | cons d more =>
    obtain ⟨rfl, rfl⟩ := List.cons.inj same
    refine ⟨more, ?_, rfl, rfl⟩
    rintro rfl
    exact placed here

/-- The shortest file name that is followed by a place is found, if there is one. -/
theorem withFile?_shortest (name cs : List Char) :
    (withFile? name cs = none ∧
      ∀ file rest, file ≠ [] → cs = file ++ rest → place? rest = none) ∨
    ∃ file rest line column severity code text, file ≠ [] ∧ cs = file ++ rest ∧
      place? rest = some (line, column, severity, code, text) ∧
      withFile? name cs = some ⟨some (String.ofList (name.reverse ++ file)), line, column, severity,
        code, String.ofList text⟩ ∧
      ∀ file' rest', file' ≠ [] → cs = file' ++ rest' → place? rest' ≠ none →
        file.length ≤ file'.length := by
  induction cs generalizing name with
  | nil =>
    refine Or.inl ⟨rfl, fun file rest nonempty same => ?_⟩
    exact absurd (List.append_eq_nil_iff.mp same.symm).1 nonempty
  | cons c cs ih =>
    cases here : place? cs with
    | some found =>
      obtain ⟨line, column, severity, code, text⟩ := found
      refine Or.inr ⟨[c], cs, line, column, severity, code, text, by simp, rfl, here, ?_, ?_⟩
      · simp [withFile?, here]
      · intro file' rest' nonempty _ _
        exact List.length_pos_iff.mpr nonempty
    | none =>
      have goesOn : withFile? name (c :: cs) = withFile? (c :: name) cs := by
        rw [withFile?, here]
      have longer := fun file rest => cons_of_place?_eq_none c cs file rest here
      rcases ih (c :: name) with ⟨missed, nowhere⟩ |
        ⟨file, rest, line, column, severity, code, text, nonempty, rfl, there, found, shortest⟩
      · refine Or.inl ⟨goesOn.trans missed, fun file rest nonempty same => ?_⟩
        by_contra placed
        obtain ⟨more, nonempty', -, later⟩ := longer file rest nonempty same placed
        exact placed (nowhere more rest nonempty' later)
      · refine Or.inr ⟨c :: file, rest, line, column, severity, code, text, by simp, rfl, there,
          by rw [goesOn, found]; simp, fun file' rest' nonempty' same placed => ?_⟩
        obtain ⟨more, nonempty'', rfl, later⟩ := longer file' rest' nonempty' same placed
        exact Nat.succ_le_succ (shortest more rest' nonempty'' later placed)

/-- The diagnostic that is found is that of the reading that counts. -/
theorem exists_taken (line : List Char) (d : Diagnostic) (h : ofLine? line = some d) :
    ∃ r : Reading, r.Taken line ∧ r.diagnostic = d := by
  rcases withFile?_shortest [] line with ⟨missed, nowhere⟩ |
    ⟨file, rest, lineNumber, column, severity, code, text, nonempty, rfl, here, found, shortest⟩
  · rw [ofLine?, missed, Option.none_or, Option.map_eq_some_iff] at h
    obtain ⟨⟨severity, code, text⟩, hbody, rfl⟩ := h
    obtain ⟨digits, numeral, rfl, rfl⟩ := (body?_eq_some_iff _ _ _ _).mp hbody
    refine ⟨⟨none, severity, digits, text⟩, ⟨⟨numeral, by simp⟩, by simp [Reading.chars,
      Reading.placeChars], fun other proper spells file' _ _ place => ?_⟩, rfl⟩
    obtain ⟨rest, _, _, _, _, _, same, placed, -⟩ := other.exists_place? proper _ _ _ place
    rw [nowhere file' rest (proper.place _ _ _ place).1 (spells ▸ same)] at placed
    cases placed
  · obtain ⟨r, proper, spells, ⟨lineDigits, columnDigits, place⟩, reads⟩ :=
      exists_reading file rest _ _ _ _ _ nonempty here
    rw [ofLine?, found, Option.some_or] at h
    refine ⟨r, ⟨proper, spells, fun other proper' spells' file' _ _ place' => ?_⟩,
      reads.trans (Option.some.inj h)⟩
    obtain ⟨rest', _, _, _, _, _, same, placed, -⟩ := other.exists_place? proper' _ _ _ place'
    refine ⟨file, lineDigits, columnDigits, place, ?_⟩
    exact shortest file' rest' (proper'.place _ _ _ place').1 (spells' ▸ same) (by simp [placed])

/-- Every line that can be read as a header is read. -/
theorem exists_ofLine? (r : Reading) (proper : r.Proper) : ∃ d, ofLine? r.chars = some d := by
  rcases withFile?_shortest [] r.chars with ⟨missed, nowhere⟩ |
    ⟨_, _, _, _, _, _, _, _, _, _, found, -⟩
  · cases place : r.place with
    | none =>
      rw [ofLine?, missed, Option.none_or, r.body?_chars proper place]
      exact ⟨_, rfl⟩
    | some triple =>
      obtain ⟨file, lineDigits, columnDigits⟩ := triple
      obtain ⟨rest, _, _, _, _, _, same, placed, -⟩ := r.exists_place? proper _ _ _ place
      rw [nowhere file rest (proper.place _ _ _ place).1 same] at placed
      cases placed
  · exact ⟨_, by rw [ofLine?, found, Option.some_or]⟩

/-- A line opens exactly the diagnostic of the reading that counts. -/
theorem ofLine?_eq_some_iff (line : List Char) (d : Diagnostic) :
    ofLine? line = some d ↔ ∃ r : Reading, r.Taken line ∧ r.diagnostic = d := by
  refine ⟨exists_taken line d, ?_⟩
  rintro ⟨r, taken, rfl⟩
  obtain ⟨d, read⟩ := exists_ofLine? r taken.proper
  rw [taken.spells] at read
  obtain ⟨r', taken', rfl⟩ := exists_taken line d read
  rw [read, taken.unique line r r' taken']

/-- A diagnostic is opened by exactly the lines that match the pattern. -/
theorem isHeader_iff (line : List Char) : IsHeader line ↔ ∃ d, ofLine? line = some d := by
  constructor
  · rintro ⟨r, proper, rfl⟩
    exact exists_ofLine? r proper
  · rintro ⟨d, read⟩
    obtain ⟨r, taken, -⟩ := exists_taken line d read
    exact ⟨r, taken.proper, taken.spells⟩

end TsWorkshop.Diagnostic
