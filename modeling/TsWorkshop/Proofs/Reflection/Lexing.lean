import TsWorkshop.Proofs.Reflection.Notation

/-!
A text of a type is read in one way: the lexemes of a phrase are found from its text, also where the
text goes on with what can stand behind a type (`Phrase.unique`). The induction is on the lexemes,
those between brackets included, and follows the two states of reading: a type is to come
(`Phrase`), or one has come and may go on (`Tail`).
-/

namespace TsWorkshop

/-- What stands behind a type: nothing, a comma or a closing bracket. -/
def Closes (rest : List Char) : Prop :=
  ∀ c, rest.head? = some c → c = ',' ∨ c = '>' ∨ c = ']'

/-- What stands behind a name. -/
def EndsWord (rest : List Char) : Prop := ∀ c, rest.head? = some c → isNameChar c = false

theorem closes_nil : Closes [] := by
  rintro c ⟨⟩

theorem closes_cons (c : Char) (rest : List Char) (h : c = ',' ∨ c = '>' ∨ c = ']') :
    Closes (c :: rest) := by
  rintro d ⟨⟩
  exact h

theorem Closes.ne {rest : List Char} (h : Closes rest) (c : Char) (later : List Char)
    (other : c = '[' ∨ c = ' ') : rest ≠ c :: later := by
  rintro rfl
  rcases other with rfl | rfl <;> rcases h _ rfl with same | same | same <;> cases same

/-- Behind a name or brackets nothing goes on like a name. -/
theorem Tail.endsWord (lexemes : List Lexeme) (rest : List Char) (h : Tail lexemes)
    (closes : Closes rest) : EndsWord (phraseText lexemes ++ rest) := by
  intro c first
  cases h with
  | nil => rcases closes c first with rfl | rfl | rfl <;> rfl
  | brackets =>
    cases first
    rfl
  | both =>
    cases first
    rfl
  | either =>
    cases first
    rfl

/-! ### The front of a text -/

/-- What a text shows of the lexeme that it begins with. -/
inductive Front where
  | name (word : List Char)
  | reference (word : List Char)
  | tuple
  | operator (word : List Char)

/-- Reads the word at the front of a text, and looks at the two characters behind it. -/
def frontOf (text : List Char) : Front :=
  let word := text.takeWhile isNameChar
  let behind := text.dropWhile isNameChar
  if word.isEmpty then .tuple
  else if behind.head? = some '<' then .reference word
  else if behind.head? = some ' ' ∧ behind.tail.head?.any opens then .operator word
  else .name word

def Lexeme.front : Lexeme → Front
  | .name word => .name word.toList
  | .reference word _ => .reference word.toList
  | .operator word => .operator word.toList
  | _ => .tuple

/-- The front of a text that begins with a word. -/
theorem frontOf_word (s : String) (word : isWord s = true) (rest : List Char)
    (ends : EndsWord rest) :
    frontOf (s.toList ++ rest) =
      if rest.head? = some '<' then .reference s.toList
      else if rest.head? = some ' ' ∧ rest.tail.head?.any opens then .operator s.toList
      else .name s.toList := by
  simp only [isWord, Bool.and_eq_true, Bool.not_eq_true', List.all_eq_true] at word
  have taken : (s.toList ++ rest).takeWhile isNameChar = s.toList := by
    rw [List.takeWhile_append_of_pos word.2]
    cases rest with
    | nil => simp
    | cons c rest => simp [ends c rfl]
  have dropped : (s.toList ++ rest).dropWhile isNameChar = rest := by
    rw [List.dropWhile_append_of_pos word.2]
    cases rest with
    | nil => rfl
    | cons c rest => simp [ends c rfl]
  rw [frontOf, taken, dropped, if_neg (by simp [word.1])]

/-- What goes on behind a name is no argument, and no target of an operator. -/
theorem Tail.head (lexemes : List Lexeme) (rest : List Char) (h : Tail lexemes)
    (closes : Closes rest) :
    (phraseText lexemes ++ rest).head? ≠ some '<' ∧
      ¬ ((phraseText lexemes ++ rest).head? = some ' ' ∧
        (phraseText lexemes ++ rest).tail.head?.any opens) := by
  cases h with
  | nil =>
    constructor
    · intro first
      rcases closes _ first with same | same | same <;> cases same
    · rintro ⟨first, -⟩
      rcases closes _ first with same | same | same <;> cases same
  | brackets => simp [phraseText, Lexeme.text]
  | both => simp [phraseText, Lexeme.text, opens, isNameChar]
  | either => simp [phraseText, Lexeme.text, opens, isNameChar]

/-- The front of a phrase shows which lexeme it begins with, and the word of that lexeme. -/
theorem Phrase.front (lexeme : Lexeme) (later : List Lexeme) (rest : List Char)
    (h : Phrase (lexeme :: later)) (closes : Closes rest) :
    frontOf (phraseText (lexeme :: later) ++ rest) = lexeme.front := by
  cases h with
  | name name _ word tail =>
    obtain ⟨argument, target⟩ := tail.head later rest closes
    rw [phraseText, Lexeme.text, List.append_assoc,
      frontOf_word name word _ (tail.endsWord later rest closes), if_neg argument, if_neg target]
    rfl
  | reference name arguments _ word some each tail =>
    rw [phraseText, Lexeme.text, List.append_assoc, List.append_assoc, frontOf_word name word]
    · rfl
    · rintro c ⟨⟩
      rfl
  | tuple elements _ each tail => rfl
  | operator operator _ word target =>
    obtain ⟨c, cs, chars, opened⟩ := target.opens
    rw [phraseText, Lexeme.text, List.append_assoc, List.append_assoc, frontOf_word operator word]
    · simp [chars, opened, Lexeme.front]
    · rintro c ⟨⟩
      rfl

/-! ### Reading on -/

/-- The lexemes are found from their text, whatever stands behind it. -/
def Readable (lexemes : List Lexeme) : Prop :=
  ∀ (other : List Lexeme) (rest rest' : List Char), Closes rest → Closes rest' →
    phraseText lexemes ++ rest = phraseText other ++ rest' →
    (Phrase lexemes → Phrase other → lexemes = other ∧ rest = rest') ∧
    (Tail lexemes → Tail other → lexemes = other ∧ rest = rest')

theorem tail_step (lexemes other : List Lexeme) (rest rest' : List Char)
    (smaller : ∀ later, sizeOf later < sizeOf lexemes → Readable later) (closes : Closes rest)
    (closes' : Closes rest') (same : phraseText lexemes ++ rest = phraseText other ++ rest')
    (h : Tail lexemes) (h' : Tail other) : lexemes = other ∧ rest = rest' := by
  -- the first two characters tell which lexeme comes
  cases h with
  | nil =>
    cases h' with
    | nil => exact ⟨rfl, same⟩
    | brackets => exact absurd same (closes.ne '[' _ (Or.inl rfl))
    | both => exact absurd same (closes.ne ' ' _ (Or.inr rfl))
    | either => exact absurd same (closes.ne ' ' _ (Or.inr rfl))
  | brackets later tail =>
    cases h' with
    | nil => exact absurd same.symm (closes'.ne '[' _ (Or.inl rfl))
    | brackets later' tail' =>
      have same : phraseText later ++ rest = phraseText later' ++ rest' := by
        simpa [phraseText, Lexeme.text] using same
      obtain ⟨rfl, ends⟩ := (smaller later (by simp) later' rest rest' closes closes' same).2
        tail tail'
      exact ⟨rfl, ends⟩
    | both => simp [phraseText, Lexeme.text] at same
    | either => simp [phraseText, Lexeme.text] at same
  | both later next =>
    cases h' with
    | nil => exact absurd same.symm (closes'.ne ' ' _ (Or.inr rfl))
    | brackets => simp [phraseText, Lexeme.text] at same
    | both later' next' =>
      have same : phraseText later ++ rest = phraseText later' ++ rest' := by
        simpa [phraseText, Lexeme.text] using same
      obtain ⟨rfl, ends⟩ := (smaller later (by simp) later' rest rest' closes closes' same).1
        next next'
      exact ⟨rfl, ends⟩
    | either => simp [phraseText, Lexeme.text] at same
  | either later next =>
    cases h' with
    | nil => exact absurd same.symm (closes'.ne ' ' _ (Or.inr rfl))
    | brackets => simp [phraseText, Lexeme.text] at same
    | both => simp [phraseText, Lexeme.text] at same
    | either later' next' =>
      have same : phraseText later ++ rest = phraseText later' ++ rest' := by
        simpa [phraseText, Lexeme.text] using same
      obtain ⟨rfl, ends⟩ := (smaller later (by simp) later' rest rest' closes closes' same).1
        next next'
      exact ⟨rfl, ends⟩

/-- What stands behind the first of some pieces. -/
def behind (sep : List Char) (more : List (List Char)) (rest : List Char) : List Char :=
  match more with
  | [] => rest
  | _ :: _ => sep ++ (joined sep more ++ rest)

theorem joined_append (sep piece : List Char) (more : List (List Char)) (rest : List Char) :
    joined sep (piece :: more) ++ rest = piece ++ behind sep more rest := by
  cases more with
  | nil => rfl
  | cons next more => simp [joined, behind]

theorem Phrase.joined_ne (phrase : List Lexeme) (h : Phrase phrase) (more : List (List Char))
    (c : Char) (closing : c = '>' ∨ c = ']') (rest rest' : List Char) :
    joined [',', ' '] (phraseText phrase :: more) ++ rest ≠ c :: rest' := by
  intro same
  obtain ⟨d, chars, text, opened⟩ := h.opens
  rw [joined_append, text] at same
  obtain ⟨rfl, -⟩ := List.cons.inj same
  rcases closing with rfl | rfl <;> cases opened

/-- Phrases between brackets are found from their text. -/
theorem phrases_unique (phrases others : List (List Lexeme))
    (smaller : ∀ phrase ∈ phrases, Readable phrase) (each : ∀ phrase ∈ phrases, Phrase phrase)
    (each' : ∀ phrase ∈ others, Phrase phrase) (c : Char) (closing : c = '>' ∨ c = ']')
    (rest rest' : List Char)
    (same : joined [',', ' '] (phraseTexts phrases) ++ c :: rest =
      joined [',', ' '] (phraseTexts others) ++ c :: rest') :
    phrases = others ∧ rest = rest' := by
  have closes (more : List (List Char)) (rest : List Char) :
      Closes (behind [',', ' '] more (c :: rest)) := by
    cases more with
    | nil => exact closes_cons c rest (Or.inr closing)
    | cons => exact closes_cons ',' _ (Or.inl rfl)
  have other : c ≠ ',' := by
    rcases closing with rfl | rfl <;> decide
  induction phrases generalizing others with
  | nil =>
    cases others with
    | nil => exact ⟨rfl, (List.cons.inj same).2⟩
    | cons phrase more =>
      exact absurd same.symm ((each' phrase (by simp)).joined_ne phrase _ c closing _ _)
  | cons phrase more ih =>
    cases others with
    | nil => exact absurd same ((each phrase (by simp)).joined_ne phrase _ c closing _ _)
    | cons phrase' more' =>
      rw [phraseTexts, phraseTexts, joined_append, joined_append] at same
      obtain ⟨rfl, follows⟩ := (smaller phrase (by simp) phrase' _ _ (closes _ _) (closes _ _)
        same).1 (each phrase (by simp)) (each' phrase' (by simp))
      cases more with
      | nil =>
        cases more' with
        | nil => exact ⟨rfl, (List.cons.inj follows).2⟩
        | cons => exact absurd (List.cons.inj follows).1 other
      | cons next more =>
        cases more' with
        | nil => exact absurd (List.cons.inj follows).1.symm other
        | cons next' more' =>
          obtain ⟨tails, rfl⟩ := ih (next' :: more')
            (fun phrase inside => smaller phrase (List.mem_cons_of_mem _ inside))
            (fun phrase inside => each phrase (List.mem_cons_of_mem _ inside))
            (fun phrase inside => each' phrase (List.mem_cons_of_mem _ inside))
            (List.append_cancel_left follows)
          exact ⟨by rw [tails], rfl⟩

theorem phrase_step (lexeme lexeme' : Lexeme) (later later' : List Lexeme) (rest rest' : List Char)
    (smaller : ∀ part, sizeOf part < sizeOf (lexeme :: later) → Readable part)
    (closes : Closes rest) (closes' : Closes rest')
    (same : phraseText (lexeme :: later) ++ rest = phraseText (lexeme' :: later') ++ rest')
    (h : Phrase (lexeme :: later)) (h' : Phrase (lexeme' :: later')) :
    lexeme :: later = lexeme' :: later' ∧ rest = rest' := by
  -- the fronts agree, so that only lexemes of one kind are left to compare
  have fronts : lexeme.front = lexeme'.front := by
    rw [← h.front lexeme later rest closes, same, h'.front lexeme' later' rest' closes']
  have next : Readable later := by
    refine smaller later ?_
    rw [List.cons.sizeOf_spec]
    omega
  have inner (phrases : List (List Lexeme)) (size : sizeOf phrases < sizeOf lexeme) :
      ∀ phrase ∈ phrases, Readable phrase := by
    intro phrase inside
    have less := List.sizeOf_lt_of_mem inside
    refine smaller phrase ?_
    rw [List.cons.sizeOf_spec]
    omega
  cases h with
  | name name _ word tail =>
    cases h' with
    | name name' _ word' tail' =>
      obtain rfl : name = name' := String.toList_inj.mp (Front.name.inj fronts)
      have same : phraseText later ++ rest = phraseText later' ++ rest' := by
        simpa [phraseText, Lexeme.text] using same
      obtain ⟨rfl, ends⟩ := (next later' rest rest' closes closes' same).2 tail tail'
      exact ⟨rfl, ends⟩
    | _ => cases fronts
  | reference name arguments _ word some each tail =>
    cases h' with
    | reference name' arguments' _ word' some' each' tail' =>
      obtain rfl : name = name' := String.toList_inj.mp (Front.reference.inj fronts)
      have same : joined [',', ' '] (phraseTexts arguments) ++ '>' :: (phraseText later ++ rest) =
          joined [',', ' '] (phraseTexts arguments') ++ '>' :: (phraseText later' ++ rest') := by
        simpa [phraseText, Lexeme.text] using same
      have readable : ∀ phrase ∈ arguments, Readable phrase := by
        refine inner arguments ?_
        rw [Lexeme.reference.sizeOf_spec]
        omega
      obtain ⟨rfl, follows⟩ := phrases_unique arguments arguments' readable each each' '>'
        (Or.inl rfl) _ _ same
      obtain ⟨rfl, ends⟩ := (next later' rest rest' closes closes' follows).2 tail tail'
      exact ⟨rfl, ends⟩
    | _ => cases fronts
  | tuple elements _ each tail =>
    cases h' with
    | tuple elements' _ each' tail' =>
      have same : joined [',', ' '] (phraseTexts elements) ++ ']' :: (phraseText later ++ rest) =
          joined [',', ' '] (phraseTexts elements') ++ ']' :: (phraseText later' ++ rest') := by
        simpa [phraseText, Lexeme.text] using same
      have readable := inner elements (by simp)
      obtain ⟨rfl, follows⟩ := phrases_unique elements elements' readable each each' ']'
        (Or.inr rfl) _ _ same
      obtain ⟨rfl, ends⟩ := (next later' rest rest' closes closes' follows).2 tail tail'
      exact ⟨rfl, ends⟩
    | _ => cases fronts
  | operator operator _ word target =>
    cases h' with
    | operator operator' _ word' target' =>
      obtain rfl : operator = operator' := String.toList_inj.mp (Front.operator.inj fronts)
      have same : phraseText later ++ rest = phraseText later' ++ rest' := by
        simpa [phraseText, Lexeme.text] using same
      obtain ⟨rfl, ends⟩ := (next later' rest rest' closes closes' same).1 target target'
      exact ⟨rfl, ends⟩
    | _ => cases fronts

/-- A text of a type is read in one way. -/
theorem readable (lexemes : List Lexeme) : Readable lexemes := by
  induction lexemes using WellFounded.induction (measure (sizeOf (α := List Lexeme))).wf with
  | _ lexemes ih =>
    intro other rest rest' closes closes' same
    refine ⟨fun h h' => ?_, tail_step lexemes other rest rest' ih closes closes' same⟩
    cases lexemes with
    | nil => cases h
    | cons lexeme later =>
      cases other with
      | nil => cases h'
      | cons lexeme' later' =>
        exact phrase_step lexeme lexeme' later later' rest rest' ih closes closes' same h h'

/-- The lexemes of a type are found from its text. -/
theorem Phrase.unique (lexemes other : List Lexeme) (h : Phrase lexemes) (h' : Phrase other)
    (same : phraseText lexemes = phraseText other) : lexemes = other := by
  have read := readable lexemes other [] [] closes_nil closes_nil (by rw [same])
  exact (read.1 h h').1

end TsWorkshop
