import TsWorkshop.Bundle.Wrapper
import TsWorkshop.Proofs.Unicode.Identifier

/-!
The names that are accepted for exports, and which of them a module can declare. An accepted name
stays in its place in a line: it has no blank and no line break in it (`not_mem_identifier`). No
accepted name is a reserved word. The classes of characters that are accepted are wider than those
of identifiers, so an accepted name is an identifier exactly if it holds none of the characters in
between (`declarable_iff_of_isIdentifier`).
-/

namespace TsWorkshop.Wrapper

open Unicode

/-! ### Accepted names -/

theorem isIdentifier_iff (name : String) :
    isIdentifier name = true ↔ ∃ first rest, name.toList = first :: rest ∧
      isNameStart first = true ∧ (∀ c ∈ rest, isNamePart c = true) ∧ name ∉ reservedWords := by
  unfold isIdentifier
  cases name.toList with
  | nil => simp
  | cons first rest => simp [and_assoc]

theorem not_mem_identifier (c : Char) (noStart : isNameStart c = false)
    (noPart : isNamePart c = false) (name : String) (h : isIdentifier name = true) :
    c ∉ name.toList := by
  obtain ⟨first, rest, spelt, starts, goesOn, -⟩ := (isIdentifier_iff name).mp h
  rw [spelt]
  intro inside
  rcases List.mem_cons.mp inside with rfl | later
  · exact Bool.noConfusion (noStart.symm.trans starts)
  · exact Bool.noConfusion (noPart.symm.trans (goesOn c later))

theorem feed_not_mem_identifier (name : String) (h : isIdentifier name = true) :
    '\n' ∉ name.toList :=
  not_mem_identifier '\n' (by decide +kernel) (by decide +kernel) name h

theorem space_not_mem_identifier (name : String) (h : isIdentifier name = true) :
    ' ' ∉ name.toList :=
  not_mem_identifier ' ' (by decide +kernel) (by decide +kernel) name h

/-! ### Names of constants -/

/-- Words that have a meaning of their own in every program. -/
def keywords : List String :=
  ["break", "case", "catch", "class", "const", "continue", "debugger", "default", "delete", "do",
   "else", "enum", "export", "extends", "false", "finally", "for", "function", "if", "import", "in",
   "instanceof", "new", "null", "return", "super", "switch", "this", "throw", "true", "try",
   "typeof", "var", "void", "while", "with"]

/-- Words that are reserved in strict code, as the code of a module is. -/
def strictWords : List String :=
  ["implements", "interface", "let", "package", "private", "protected", "public", "static", "yield"]

/-- Words that no constant of a module can have as its name: those of the language, those of strict
code, the word that is reserved in modules, and the two names that strict code must not bind. -/
def unbindable : List String := keywords ++ strictWords ++ ["await", "arguments", "eval"]

/-- A name that a constant of a module can be declared by. -/
structure Declarable (name : String) : Prop where
  characters : ∃ first rest, name.toList = first :: rest ∧
    (first = '$' ∨ first = '_' ∨ isIdStart first = true) ∧
    ∀ c ∈ rest, c = '$' ∨ isIdContinue c = true
  bindable : name ∉ unbindable

/-! ### Accepted characters -/

theorem start_iff_of_isNameStart (c : Char) (h : isNameStart c = true) :
    (c = '$' ∨ c = '_' ∨ isIdStart c = true) ↔ inRanges c looseStartRanges = false := by
  have dollar : inRanges '$' looseStartRanges = false := by decide +kernel
  have underscore : inRanges '_' looseStartRanges = false := by decide +kernel
  simp only [isNameStart, Bool.or_eq_true, beq_iff_eq] at h
  rcases h with (alphabetic | rfl) | rfl
  · rw [isIdStart_iff_of_isAlphabetic c alphabetic]
    constructor
    · rintro (rfl | rfl | apart)
      · exact dollar
      · exact underscore
      · exact apart
    · exact fun apart => Or.inr (Or.inr apart)
  · simp [underscore]
  · simp [dollar]

theorem part_iff_of_isNamePart (c : Char) (h : isNamePart c = true) :
    (c = '$' ∨ isIdContinue c = true) ↔ isLoosePart c = false := by
  have dollar : isLoosePart '$' = false := by decide +kernel
  have underscore : isLoosePart '_' = false := by decide +kernel
  have joins : isIdContinue '_' = true := by decide +kernel
  simp only [isNamePart, Bool.or_eq_true, beq_iff_eq] at h
  rcases h with (lettered | rfl) | rfl
  · rw [isIdContinue_iff_not_isLoosePart c lettered]
    constructor
    · rintro (rfl | apart)
      · exact dollar
      · exact apart
    · exact Or.inr
  · simp [underscore, joins]
  · simp [dollar]

/-! ### Accepted names that can be declared -/

theorem mem_reservedWords_of_mem_unbindable :
    ∀ word ∈ unbindable, word ∈ reservedWords := by
  decide

/-- An accepted name is no reserved word, and a constant can be declared by it exactly if its first
character is none of the combining marks and enclosed letters that are alphabetic all the same, and
none of its other characters is an enclosed letter, or a number that is no part of an identifier. -/
theorem declarable_iff_of_isIdentifier (name : String) (accepted : isIdentifier name = true) :
    name ∉ unbindable ∧
      (Declarable name ↔ (∀ c ∈ name.toList.head?, inRanges c looseStartRanges = false) ∧
        ∀ c ∈ name.toList.tail, isLoosePart c = false) := by
  obtain ⟨first, rest, spelt, starts, goesOn, free⟩ := (isIdentifier_iff name).mp accepted
  have bindable : name ∉ unbindable := fun word =>
    free (mem_reservedWords_of_mem_unbindable name word)
  refine ⟨bindable, ?_⟩
  simp only [spelt, List.head?_cons, Option.mem_some_iff, forall_eq', List.tail_cons]
  constructor
  · rintro ⟨⟨first', rest', spelt', start, parts⟩, -⟩
    obtain ⟨rfl, rfl⟩ := List.cons.inj (spelt.symm.trans spelt')
    exact ⟨(start_iff_of_isNameStart first starts).mp start,
      fun c member => (part_iff_of_isNamePart c (goesOn c member)).mp (parts c member)⟩
  · rintro ⟨start, parts⟩
    exact ⟨⟨first, rest, spelt, (start_iff_of_isNameStart first starts).mpr start,
      fun c member => (part_iff_of_isNamePart c (goesOn c member)).mpr (parts c member)⟩, bindable⟩

theorem declarable_iff_of_isIdentifier_accented :
    isIdentifier "café" = true ∧ Declarable "café" := by
  have accepted : isIdentifier "café" = true := by decide +kernel
  have first : inRanges 'c' looseStartRanges = false := by decide +kernel
  have rest : ['a', 'f', 'é'].any isLoosePart = false := by decide +kernel
  have letters : "café".toList = ['c', 'a', 'f', 'é'] := by decide +kernel
  refine ⟨accepted, (declarable_iff_of_isIdentifier "café" accepted).2.mpr ?_⟩
  rw [letters]
  exact ⟨by simpa using first, by simpa using rest⟩

/-- A superscript is accepted, although no identifier holds one. -/
theorem superscript_not_declarable :
    isIdentifier "a²" = true ∧ ¬ Declarable "a²" := by
  refine ⟨by decide +kernel, ?_⟩
  rintro ⟨⟨first, rest, spelt, -, parts⟩, -⟩
  have letters : "a²".toList = ['a', '²'] := by decide +kernel
  obtain ⟨rfl, rfl⟩ := List.cons.inj (letters.symm.trans spelt)
  have part := parts '²' (by simp)
  revert part
  decide +kernel

end TsWorkshop.Wrapper
