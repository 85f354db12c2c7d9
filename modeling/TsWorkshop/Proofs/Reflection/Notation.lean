import TsWorkshop.Reflection.Render

/-!
The notation of types, as far as it is made of names, brackets and operators. The text of a type is
the text of its lexemes (`Descriptor.toList_render`). The notation has no parentheses: the lexemes
of a type are those of its parts one after another, so that types of different structure can have
the same lexemes. Only what stands between angle or square brackets is kept together, as a part of
one lexeme.
-/

namespace TsWorkshop

/-- The structure of a type that is written with names, brackets and operators. -/
inductive TypeShape where
  | name (name : String)
  | reference (name : String) (arguments : List TypeShape)
  | array (element : TypeShape)
  | tuple (elements : List TypeShape)
  | operator (operator : String) (target : TypeShape)
  | intersection (types : List TypeShape)
  | union (types : List TypeShape)

mutual

/-- The structure of a descriptor: what it names and how its parts are put together. Which kind of
descriptor stands for a bare name makes no difference, and a tuple that lists no elements has
none. -/
def Descriptor.shape? : Descriptor → Option TypeShape
  | .intrinsic name _ => some (.name name)
  | .reference name _ arguments _ _ _ =>
    match arguments with
    | some arguments => (shapes? arguments).map (.reference name)
    | none => some (.name name)
  | .array element _ => element.shape?.map .array
  | .tuple elements _ =>
    match elements with
    | some elements => (shapes? elements).map .tuple
    | none => some (.tuple [])
  | .typeOperator operator target _ => target.shape?.map (.operator operator)
  | .intersection types _ => (shapes? types).map .intersection
  | .union types _ => (shapes? types).map .union
  | _ => none

def shapes? : List Descriptor → Option (List TypeShape)
  | [] => some []
  | d :: rest =>
    match d.shape?, shapes? rest with
    | some shape, some shapes => some (shape :: shapes)
    | _, _ => none

end

/-- A character that is neither blank nor a mark of the notation. -/
def isNameChar (c : Char) : Bool :=
  !isBlank c && !(([',', '<', '>', '[', ']', '&', '|'] : List Char).contains c)

/-- A text that is read as one name, as every identifier is. -/
def isWord (s : String) : Bool := !s.toList.isEmpty && s.toList.all isNameChar

namespace TypeShape

mutual

/-- Names and operators are words, and only a tuple has no parts. -/
def isProper : TypeShape → Bool
  | .name text => isWord text
  | .reference text arguments => isWord text && !arguments.isEmpty && areProper arguments
  | .array element => element.isProper
  | .tuple elements => areProper elements
  | .operator text target => isWord text && target.isProper
  | .intersection types | .union types => !types.isEmpty && areProper types

def areProper : List TypeShape → Bool
  | [] => true
  | shape :: rest => shape.isProper && areProper rest

end

theorem areProper_iff (shapes : List TypeShape) :
    areProper shapes = true ↔ ∀ shape ∈ shapes, shape.isProper = true := by
  induction shapes with
  | nil => simp [areProper]
  | cons shape rest ih => simp [areProper, ih]

/-- The shapes that a shape is put together from. -/
def parts : TypeShape → List TypeShape
  | .name _ => []
  | .array part | .operator _ part => [part]
  | .reference _ parts | .tuple parts | .intersection parts | .union parts => parts

theorem sizeOf_part (shape part : TypeShape) (h : part ∈ shape.parts) :
    sizeOf part < sizeOf shape := by
  cases shape with
  | name => cases h
  | array element =>
    obtain rfl : part = element := by simpa [parts] using h
    simp
  | operator text target =>
    obtain rfl : part = target := by simpa [parts] using h
    simp only [operator.sizeOf_spec]
    omega
  | reference name shapes =>
    have := List.sizeOf_lt_of_mem (show part ∈ shapes from h)
    simp only [reference.sizeOf_spec]
    omega
  | tuple shapes | intersection shapes | union shapes =>
    have := List.sizeOf_lt_of_mem (show part ∈ shapes from h)
    simp only [tuple.sizeOf_spec, intersection.sizeOf_spec, union.sizeOf_spec]
    omega

/-- Induction on a shape: its parts come first. -/
theorem induction_on_parts {P : TypeShape → Prop} (shape : TypeShape)
    (step : ∀ shape, (∀ part ∈ shape.parts, P part) → P shape) : P shape :=
  step shape fun part _ => induction_on_parts part step
termination_by sizeOf shape
decreasing_by exact sizeOf_part shape part ‹_›

end TypeShape

/-! ### Lexemes -/

/-- What a text of a type is made of. What stands between brackets belongs to the lexeme. -/
inductive Lexeme where
  | name (name : String)
  | reference (name : String) (arguments : List (List Lexeme))
  | tuple (elements : List (List Lexeme))
  | operator (operator : String)
  | brackets
  | both
  | either

/-- Lists one after another, with `sep` between neighbours. -/
def joined {α : Type} (sep : List α) : List (List α) → List α
  | [] => []
  | [piece] => piece
  | piece :: next :: rest => piece ++ sep ++ joined sep (next :: rest)

mutual

def Lexeme.text : Lexeme → List Char
  | .name name => name.toList
  | .reference name arguments =>
    name.toList ++ '<' :: (joined [',', ' '] (phraseTexts arguments) ++ ['>'])
  | .tuple elements => '[' :: (joined [',', ' '] (phraseTexts elements) ++ [']'])
  | .operator operator => operator.toList ++ [' ']
  | .brackets => ['[', ']']
  | .both => [' ', '&', ' ']
  | .either => [' ', '|', ' ']

/-- The text of lexemes one after another. -/
def phraseText : List Lexeme → List Char
  | [] => []
  | lexeme :: rest => lexeme.text ++ phraseText rest

def phraseTexts : List (List Lexeme) → List (List Char)
  | [] => []
  | phrase :: rest => phraseText phrase :: phraseTexts rest

end

mutual

/-- The lexemes of a type, in the order of its text. -/
def TypeShape.lexemes : TypeShape → List Lexeme
  | .name name => [.name name]
  | .reference name arguments => [.reference name (lexemesOfAll arguments)]
  | .array element => element.lexemes ++ [.brackets]
  | .tuple elements => [.tuple (lexemesOfAll elements)]
  | .operator operator target => .operator operator :: target.lexemes
  | .intersection types => joined [.both] (lexemesOfAll types)
  | .union types => joined [.either] (lexemesOfAll types)

def lexemesOfAll : List TypeShape → List (List Lexeme)
  | [] => []
  | shape :: rest => shape.lexemes :: lexemesOfAll rest

end

theorem phraseTexts_eq_map (phrases : List (List Lexeme)) :
    phraseTexts phrases = phrases.map phraseText := by
  induction phrases with
  | nil => rfl
  | cons phrase rest ih => simp [phraseTexts, ih]

theorem lexemesOfAll_eq_map (shapes : List TypeShape) :
    lexemesOfAll shapes = shapes.map TypeShape.lexemes := by
  induction shapes with
  | nil => rfl
  | cons shape rest ih => simp [lexemesOfAll, ih]

theorem lexemesOfAll_ne_nil (shapes : List TypeShape) (some : shapes.isEmpty = false) :
    lexemesOfAll shapes ≠ [] := by
  cases shapes with
  | nil => cases some
  | cons => simp [lexemesOfAll]

theorem phraseText_append (left right : List Lexeme) :
    phraseText (left ++ right) = phraseText left ++ phraseText right := by
  induction left with
  | nil => rfl
  | cons lexeme rest ih => simp [phraseText, ih]

/-- The text of phrases with a lexeme between neighbours. -/
theorem phraseText_joined (sep : Lexeme) (phrases : List (List Lexeme)) :
    phraseText (joined [sep] phrases) = joined sep.text (phrases.map phraseText) := by
  induction phrases with
  | nil => rfl
  | cons phrase rest ih =>
    cases rest with
    | nil => rfl
    | cons next rest =>
      rw [joined, phraseText_append, phraseText_append, ih]
      simp [joined, phraseText]

theorem toList_join (sep : String) (pieces : List String) :
    (Text.join sep pieces).toList = joined sep.toList (pieces.map String.toList) := by
  induction pieces with
  | nil => rfl
  | cons piece rest ih =>
    cases rest with
    | nil => rfl
    | cons next rest =>
      rw [Text.join, String.toList_append, String.toList_append, ih]
      rfl

/-! ### Phrases -/

mutual

/-- Lexemes that are read as a type: operators and a name or brackets come first. -/
inductive Phrase : List Lexeme → Prop
  | name (name : String) (rest : List Lexeme) (word : isWord name) (tail : Tail rest) :
      Phrase (.name name :: rest)
  | reference (name : String) (arguments : List (List Lexeme)) (rest : List Lexeme)
      (word : isWord name) (some : arguments ≠ []) (each : ∀ phrase ∈ arguments, Phrase phrase)
      (tail : Tail rest) : Phrase (.reference name arguments :: rest)
  | tuple (elements : List (List Lexeme)) (rest : List Lexeme)
      (each : ∀ phrase ∈ elements, Phrase phrase) (tail : Tail rest) :
      Phrase (.tuple elements :: rest)
  | operator (operator : String) (rest : List Lexeme) (word : isWord operator)
      (target : Phrase rest) : Phrase (.operator operator :: rest)

/-- Lexemes that go on behind a name or brackets. -/
inductive Tail : List Lexeme → Prop
  | nil : Tail []
  | brackets (rest : List Lexeme) (tail : Tail rest) : Tail (.brackets :: rest)
  | both (rest : List Lexeme) (next : Phrase rest) : Tail (.both :: rest)
  | either (rest : List Lexeme) (next : Phrase rest) : Tail (.either :: rest)

end

theorem phrase_joined (sep : Lexeme) (goesOn : ∀ rest, Phrase rest → Tail (sep :: rest))
    (phrases : List (List Lexeme)) (some : phrases ≠ [])
    (each : ∀ phrase ∈ phrases, ∀ rest, Tail rest → Phrase (phrase ++ rest)) (rest : List Lexeme)
    (tail : Tail rest) : Phrase (joined [sep] phrases ++ rest) := by
  induction phrases with
  | nil => exact absurd rfl some
  | cons phrase later ih =>
    cases later with
    | nil => exact each phrase (by simp) rest tail
    | cons next later =>
      have further := ih (by simp) fun other inside => each other (List.mem_cons_of_mem _ inside)
      rw [joined, List.append_assoc, List.append_assoc]
      exact each phrase (by simp) _ (goesOn _ further)

/-- The lexemes of a type are read as a type, also where the text goes on. -/
theorem TypeShape.phrase_lexemes (shape : TypeShape) (proper : shape.isProper = true)
    (rest : List Lexeme) (tail : Tail rest) : Phrase (shape.lexemes ++ rest) := by
  induction shape using TypeShape.induction_on_parts generalizing rest with
  | step shape ih =>
    have listed (all : areProper shape.parts = true) :
        ∀ phrase ∈ lexemesOfAll shape.parts, ∀ rest, Tail rest → Phrase (phrase ++ rest) := by
      intro phrase inside rest tail
      rw [lexemesOfAll_eq_map] at inside
      obtain ⟨part, member, rfl⟩ := List.mem_map.mp inside
      exact ih part member ((areProper_iff shape.parts).mp all part member) rest tail
    have alone (all : areProper shape.parts = true) :
        ∀ phrase ∈ lexemesOfAll shape.parts, Phrase phrase := by
      intro phrase inside
      simpa using listed all phrase inside [] Tail.nil
    cases shape with
    | name text => exact Phrase.name text rest (by simpa [isProper] using proper) tail
    | reference text arguments =>
      simp only [isProper, Bool.and_eq_true, Bool.not_eq_true'] at proper
      obtain ⟨⟨word, some⟩, all⟩ := proper
      exact Phrase.reference text _ rest word (lexemesOfAll_ne_nil arguments some) (alone all) tail
    | array element =>
      rw [lexemes, List.append_assoc]
      exact ih element (by simp [parts]) (by simpa [isProper] using proper) _
        (Tail.brackets rest tail)
    | tuple elements =>
      exact Phrase.tuple _ rest (alone (by simpa [isProper, parts] using proper)) tail
    | operator text target =>
      simp only [isProper, Bool.and_eq_true] at proper
      have further := ih target (by simp [parts]) proper.2 rest tail
      exact Phrase.operator text _ proper.1 further
    | intersection types =>
      simp only [isProper, Bool.and_eq_true, Bool.not_eq_true'] at proper
      exact phrase_joined .both Tail.both _ (lexemesOfAll_ne_nil types proper.1)
        (listed proper.2) rest tail
    | union types =>
      simp only [isProper, Bool.and_eq_true, Bool.not_eq_true'] at proper
      exact phrase_joined .either Tail.either _ (lexemesOfAll_ne_nil types proper.1)
        (listed proper.2) rest tail

/-! ### The text of a phrase -/

/-- The characters that the text of a type begins with. -/
def opens (c : Char) : Bool := isNameChar c || c = '['

theorem exists_of_isWord (s : String) (h : isWord s = true) :
    ∃ c rest, s.toList = c :: rest ∧ ∀ d ∈ c :: rest, isNameChar d = true := by
  simp only [isWord, Bool.and_eq_true, Bool.not_eq_true', List.all_eq_true] at h
  cases chars : s.toList with
  | nil => simp [chars] at h
  | cons c rest =>
    rw [chars] at h
    exact ⟨c, rest, rfl, h.2⟩

theorem Phrase.opens (phrase : List Lexeme) (h : Phrase phrase) :
    ∃ c rest, phraseText phrase = c :: rest ∧ TsWorkshop.opens c = true := by
  have opened (s : String) (word : isWord s = true) (rest : List Char) :
      ∃ c later, s.toList ++ rest = c :: later ∧ TsWorkshop.opens c = true := by
    obtain ⟨c, later, chars, all⟩ := exists_of_isWord s word
    exact ⟨c, later ++ rest, by rw [chars, List.cons_append],
      by simp [TsWorkshop.opens, all c (by simp)]⟩
  cases h with
  | name name rest word tail => exact opened name word _
  | reference name arguments rest word some each tail =>
    rw [phraseText, Lexeme.text, List.append_assoc]
    exact opened name word _
  | tuple elements rest each tail => exact ⟨'[', _, rfl, rfl⟩
  | operator operator rest word target =>
    rw [phraseText, Lexeme.text, List.append_assoc]
    exact opened operator word _

theorem not_isBlank_of_opens (c : Char) (h : opens c = true) : isBlank c = false := by
  simp only [opens, isNameChar, Bool.or_eq_true, Bool.and_eq_true, decide_eq_true_eq] at h
  rcases h with ⟨visible, -⟩ | rfl
  · simpa using visible
  · rfl

/-! ### The text of a descriptor -/

/-- The text of a type is not blank, so that no member of a union is left out. -/
theorem TypeShape.not_allBlank (shape : TypeShape) (proper : shape.isProper = true) (text : String)
    (h : text.toList = phraseText shape.lexemes) : Text.allBlank text = false := by
  have phrase := shape.phrase_lexemes proper [] Tail.nil
  rw [List.append_nil] at phrase
  obtain ⟨c, rest, chars, opened⟩ := phrase.opens
  rw [Text.allBlank, h, chars, List.all_cons, not_isBlank_of_opens c opened, Bool.false_and]

mutual

/-- The text of a descriptor is that of its shape's lexemes. -/
theorem Descriptor.toList_render : ∀ (d : Descriptor) (shape : TypeShape),
    d.shape? = some shape → shape.isProper = true →
      d.render.toList = phraseText shape.lexemes
  | .intrinsic name _, _, h, _ => by
    cases h
    simp [Descriptor.render, TypeShape.lexemes, phraseText, Lexeme.text]
  | .reference name _ none _ _ _, _, h, _ => by
    cases h
    simp [Descriptor.render, TypeShape.lexemes, phraseText, Lexeme.text]
  | .reference name _ (some arguments) _ _ _, _, h, proper => by
    obtain ⟨shapes, known, rfl⟩ := Option.map_eq_some_iff.mp h
    simp only [TypeShape.isProper, Bool.and_eq_true] at proper
    have listed := toList_renderAll arguments shapes known proper.2
    simp [Descriptor.render, TypeShape.lexemes, phraseText, Lexeme.text, toList_join, listed]
  | .array element _, _, h, proper => by
    obtain ⟨shape, known, rfl⟩ := Option.map_eq_some_iff.mp h
    have inner := element.toList_render shape known (by simpa [TypeShape.isProper] using proper)
    simp [Descriptor.render, TypeShape.lexemes, phraseText_append, phraseText, Lexeme.text, inner]
  | .tuple none _, _, h, _ => by
    cases h
    simp [Descriptor.render, TypeShape.lexemes, phraseText, Lexeme.text, lexemesOfAll, joined,
      phraseTexts]
  | .tuple (some elements) _, _, h, proper => by
    obtain ⟨shapes, known, rfl⟩ := Option.map_eq_some_iff.mp h
    simp only [TypeShape.isProper] at proper
    have listed := toList_renderAll elements shapes known proper
    simp [Descriptor.render, TypeShape.lexemes, phraseText, Lexeme.text, toList_join, listed]
  | .typeOperator operator target _, _, h, proper => by
    obtain ⟨shape, known, rfl⟩ := Option.map_eq_some_iff.mp h
    simp only [TypeShape.isProper, Bool.and_eq_true] at proper
    have inner := target.toList_render shape known proper.2
    simp [Descriptor.render, TypeShape.lexemes, phraseText, Lexeme.text, inner]
  | .intersection types _, _, h, proper => by
    obtain ⟨shapes, known, rfl⟩ := Option.map_eq_some_iff.mp h
    simp only [TypeShape.isProper, Bool.and_eq_true] at proper
    have listed := toList_renderAll types shapes known proper.2
    rw [Descriptor.render, toList_join, listed, TypeShape.lexemes, phraseText_joined,
      phraseTexts_eq_map]
    rfl
  | .union types _, _, h, proper => by
    obtain ⟨shapes, known, rfl⟩ := Option.map_eq_some_iff.mp h
    simp only [TypeShape.isProper, Bool.and_eq_true] at proper
    have listed := toList_renderAll types shapes known proper.2
    have kept : (renderAll types).filter (fun member => !Text.allBlank member) =
        renderAll types := by
      refine List.filter_eq_self.mpr fun text inside => ?_
      have inside := List.mem_map_of_mem (f := String.toList) inside
      rw [listed, phraseTexts_eq_map, lexemesOfAll_eq_map, List.map_map] at inside
      obtain ⟨shape, member, same⟩ := List.mem_map.mp inside
      have inner := (TypeShape.areProper_iff shapes).mp proper.2 shape member
      simp [shape.not_allBlank inner text same.symm]
    rw [Descriptor.render, kept, toList_join, listed, TypeShape.lexemes, phraseText_joined,
      phraseTexts_eq_map]
    rfl
  | .conditional .., _, h, _ | .indexedAccess .., _, h, _ | .inferred .., _, h, _
  | .predicate .., _, h, _ | .reflection .., _, h, _ | .literal .., _, h, _
  | .unknown .., _, h, _ | .unrecognized .., _, h, _ => by cases h

theorem toList_renderAll : ∀ (ds : List Descriptor) (shapes : List TypeShape),
    shapes? ds = some shapes → TypeShape.areProper shapes = true →
      (renderAll ds).map String.toList = phraseTexts (lexemesOfAll shapes)
  | [], _, h, _ => by
    cases h
    rfl
  | d :: rest, _, h, proper => by
    unfold shapes? at h
    split at h
    · rename_i shape shapes first later
      cases h
      simp only [TypeShape.areProper, Bool.and_eq_true] at proper
      have here := d.toList_render shape first proper.1
      have there := toList_renderAll rest shapes later proper.2
      simp [renderAll, lexemesOfAll, phraseTexts, here, there]
    · cases h

end

end TsWorkshop
