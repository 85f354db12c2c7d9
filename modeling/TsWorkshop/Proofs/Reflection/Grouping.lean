import TsWorkshop.Proofs.Reflection.Lexing

/-!
Which types are told apart by their text. Without parentheses the parts of a type are grouped by the
rank of what puts them together: arrays hold together most firmly, then operators, intersections and
unions. A type whose parts rank as high as their places ask is found from its text
(`TypeShape.eq_of_lexemes`); in general a text shows the lexemes and nothing else
(`Descriptor.render_determines`).
-/

namespace TsWorkshop

namespace TypeShape

/-- How firmly a type holds together when it stands among others without parentheses. -/
def rank : TypeShape → Nat
  | .union _ => 0
  | .intersection _ => 1
  | .operator _ _ => 2
  | _ => 3

@[simp] theorem rank_name (text : String) : (name text).rank = 3 := rfl

@[simp] theorem rank_reference (text : String) (arguments : List TypeShape) :
    (reference text arguments).rank = 3 := rfl

@[simp] theorem rank_array (element : TypeShape) : (array element).rank = 3 := rfl

@[simp] theorem rank_tuple (elements : List TypeShape) : (tuple elements).rank = 3 := rfl

@[simp] theorem rank_operator (text : String) (target : TypeShape) :
    (operator text target).rank = 2 := rfl

@[simp] theorem rank_intersection (types : List TypeShape) : (intersection types).rank = 1 := rfl

@[simp] theorem rank_union (types : List TypeShape) : (union types).rank = 0 := rfl

theorem rank_le (shape : TypeShape) : shape.rank ≤ 3 := by
  cases shape <;> simp [rank]

mutual

/-- The parts of a type rank as high as their places ask, so that no parentheses are missed. -/
def isGrouped : TypeShape → Bool
  | .name _ => true
  | .reference _ arguments => areGrouped 0 arguments
  | .array element => 3 ≤ element.rank && element.isGrouped
  | .tuple elements => areGrouped 0 elements
  | .operator _ target => 2 ≤ target.rank && target.isGrouped
  | .intersection types => 2 ≤ types.length && areGrouped 2 types
  | .union types => 2 ≤ types.length && areGrouped 1 types

/-- Types between brackets or operators, each of at least a certain rank. -/
def areGrouped (least : Nat) : List TypeShape → Bool
  | [] => true
  | shape :: rest => least ≤ shape.rank && shape.isGrouped && areGrouped least rest

end

theorem areGrouped_iff (least : Nat) (shapes : List TypeShape) :
    areGrouped least shapes = true ↔
      ∀ shape ∈ shapes, least ≤ shape.rank ∧ shape.isGrouped = true := by
  induction shapes with
  | nil => simp [areGrouped]
  | cons shape rest ih => simp [areGrouped, ih]

end TypeShape

/-! ### Lists with separators -/

theorem mem_joined {α : Type} (sep x : α) (pieces : List (List α)) :
    x ∈ joined [sep] pieces ↔ (∃ piece ∈ pieces, x ∈ piece) ∨ x = sep ∧ 2 ≤ pieces.length := by
  induction pieces with
  | nil => simp [joined]
  | cons piece rest ih =>
    cases rest with
    | nil => simp [joined]
    | cons next rest =>
      rw [joined, List.append_assoc, List.mem_append, List.singleton_append, List.mem_cons, ih]
      constructor
      · rintro (here | rfl | ⟨other, inside, there⟩ | ⟨rfl, -⟩)
        · exact Or.inl ⟨piece, by simp, here⟩
        · exact Or.inr ⟨rfl, by simp⟩
        · exact Or.inl ⟨other, List.mem_cons_of_mem _ inside, there⟩
        · exact Or.inr ⟨rfl, by simp⟩
      · rintro (⟨other, inside, there⟩ | ⟨rfl, -⟩)
        · rcases List.mem_cons.mp inside with rfl | later
          · exact Or.inl there
          · exact Or.inr (Or.inr (Or.inl ⟨other, later, there⟩))
        · exact Or.inr (Or.inl rfl)

theorem append_sep_injective {α : Type} (sep : α) (left right rest rest' : List α)
    (free : sep ∉ left) (free' : sep ∉ right) (same : left ++ sep :: rest = right ++ sep :: rest') :
    left = right ∧ rest = rest' := by
  induction left generalizing right with
  | nil =>
    cases right with
    | nil => exact ⟨rfl, (List.cons.inj same).2⟩
    | cons x right =>
      obtain ⟨rfl, -⟩ := List.cons.inj same
      exact absurd (List.mem_cons_self ..) free'
  | cons x left ih =>
    cases right with
    | nil =>
      obtain ⟨rfl, -⟩ := List.cons.inj same
      exact absurd (List.mem_cons_self ..) free
    | cons y right =>
      obtain ⟨rfl, tails⟩ := List.cons.inj same
      obtain ⟨rfl, follows⟩ := ih right (fun inside => free (List.mem_cons_of_mem _ inside))
        (fun inside => free' (List.mem_cons_of_mem _ inside)) tails
      exact ⟨rfl, follows⟩

/-- Pieces without the separator are found from the list that they make. -/
theorem joined_injective {α : Type} (sep : α) (pieces others : List (List α)) (some : pieces ≠ [])
    (some' : others ≠ []) (free : ∀ piece ∈ pieces, sep ∉ piece)
    (free' : ∀ piece ∈ others, sep ∉ piece) (same : joined [sep] pieces = joined [sep] others) :
    pieces = others := by
  induction pieces generalizing others with
  | nil => exact absurd rfl some
  | cons piece rest ih =>
    cases others with
    | nil => exact absurd rfl some'
    | cons piece' rest' =>
      have here := free piece (by simp)
      have here' := free' piece' (by simp)
      cases rest with
      | nil =>
        cases rest' with
        | nil => rw [show piece = piece' from same]
        | cons next' rest' =>
          rw [show piece = _ from same] at here
          exact absurd (by simp [joined]) here
      | cons next rest =>
        cases rest' with
        | nil =>
          rw [show piece' = _ from same.symm] at here'
          exact absurd (by simp [joined]) here'
        | cons next' rest' =>
          rw [joined, joined, List.append_assoc, List.append_assoc] at same
          obtain ⟨rfl, follows⟩ := append_sep_injective sep piece piece' _ _ here here' same
          have later := ih (next' :: rest') (by simp) (by simp)
            (fun other inside => free other (List.mem_cons_of_mem _ inside))
            (fun other inside => free' other (List.mem_cons_of_mem _ inside)) follows
          rw [later]

namespace TypeShape

/-! ### The rank of lexemes -/

/-- Bars stand in the lexemes of a union, and of no other type. -/
theorem either_mem_lexemes (shape : TypeShape) (grouped : shape.isGrouped = true) :
    Lexeme.either ∈ shape.lexemes ↔ shape.rank = 0 := by
  induction shape using TypeShape.induction_on_parts with
  | step shape ih =>
    cases shape with
    | name text => simp [lexemes]
    | reference text arguments => simp [lexemes]
    | tuple elements => simp [lexemes]
    | array element =>
      simp only [isGrouped, Bool.and_eq_true, decide_eq_true_eq] at grouped
      have inner := ih element (by simp [parts]) grouped.2
      have high : element.rank ≠ 0 := by omega
      simp [lexemes, inner, high]
    | operator text target =>
      simp only [isGrouped, Bool.and_eq_true, decide_eq_true_eq] at grouped
      have inner := ih target (by simp [parts]) grouped.2
      have high : target.rank ≠ 0 := by omega
      simp [lexemes, inner, high]
    | intersection types =>
      simp only [isGrouped, Bool.and_eq_true, decide_eq_true_eq] at grouped
      have each := (areGrouped_iff 2 types).mp grouped.2
      rw [lexemes, mem_joined, lexemesOfAll_eq_map]
      constructor
      · rintro (⟨piece, inside, there⟩ | ⟨other, -⟩)
        · obtain ⟨part, member, rfl⟩ := List.mem_map.mp inside
          have low := (ih part member (each part member).2).mp there
          have high := (each part member).1
          omega
        · cases other
      · rintro ⟨⟩
    | union types =>
      simp only [isGrouped, Bool.and_eq_true, decide_eq_true_eq] at grouped
      rw [lexemes, mem_joined, lexemesOfAll_eq_map, List.length_map]
      exact ⟨fun _ => rfl, fun _ => Or.inr ⟨rfl, grouped.1⟩⟩

/-- Ampersands stand in the lexemes of an intersection, and of no other type but unions. -/
theorem both_mem_lexemes (shape : TypeShape) (grouped : shape.isGrouped = true)
    (high : 1 ≤ shape.rank) : Lexeme.both ∈ shape.lexemes ↔ shape.rank = 1 := by
  induction shape using TypeShape.induction_on_parts with
  | step shape ih =>
    cases shape with
    | name text => simp [lexemes]
    | reference text arguments => simp [lexemes]
    | tuple elements => simp [lexemes]
    | array element =>
      simp only [isGrouped, Bool.and_eq_true, decide_eq_true_eq] at grouped
      have inner := ih element (by simp [parts]) grouped.2 (by omega)
      have higher : element.rank ≠ 1 := by omega
      simp [lexemes, inner, higher]
    | operator text target =>
      simp only [isGrouped, Bool.and_eq_true, decide_eq_true_eq] at grouped
      have inner := ih target (by simp [parts]) grouped.2 (by omega)
      have higher : target.rank ≠ 1 := by omega
      simp [lexemes, inner, higher]
    | intersection types =>
      simp only [isGrouped, Bool.and_eq_true, decide_eq_true_eq] at grouped
      rw [lexemes, mem_joined, lexemesOfAll_eq_map, List.length_map]
      exact ⟨fun _ => rfl, fun _ => Or.inr ⟨rfl, grouped.1⟩⟩
    | union types => simp at high

def startsWithOperator (lexemes : List Lexeme) : Bool :=
  match lexemes with
  | .operator _ :: _ => true
  | _ => false

/-- Below intersections and unions, the first lexeme tells an operator from the rest. -/
theorem startsWithOperator_lexemes (shape : TypeShape) (grouped : shape.isGrouped = true)
    (high : 2 ≤ shape.rank) :
    shape.lexemes ≠ [] ∧ (startsWithOperator shape.lexemes = true ↔ shape.rank = 2) := by
  induction shape using TypeShape.induction_on_parts with
  | step shape ih =>
    cases shape with
    | name text => simp [lexemes, startsWithOperator]
    | reference text arguments => simp [lexemes, startsWithOperator]
    | tuple elements => simp [lexemes, startsWithOperator]
    | operator text target => simp [lexemes, startsWithOperator]
    | array element =>
      simp only [isGrouped, Bool.and_eq_true, decide_eq_true_eq] at grouped
      obtain ⟨some, inner⟩ := ih element (by simp [parts]) grouped.2 (by omega)
      have first : startsWithOperator (element.lexemes ++ [.brackets]) =
          startsWithOperator element.lexemes := by
        cases shown : element.lexemes with
        | nil => exact absurd shown some
        | cons lexeme rest => cases lexeme <;> rfl
      have higher : element.rank ≠ 2 := by omega
      rw [lexemes, first, inner]
      simp [higher]
    | intersection types => simp at high
    | union types => simp at high

/-- Types that need no parentheses and have the same lexemes have the same rank. -/
theorem rank_eq_of_lexemes (shape other : TypeShape) (grouped : shape.isGrouped = true)
    (grouped' : other.isGrouped = true) (same : shape.lexemes = other.lexemes) :
    shape.rank = other.rank := by
  have unions : shape.rank = 0 ↔ other.rank = 0 := by
    rw [← either_mem_lexemes shape grouped, same, either_mem_lexemes other grouped']
  have intersections : 1 ≤ shape.rank → 1 ≤ other.rank → (shape.rank = 1 ↔ other.rank = 1) := by
    intro high high'
    rw [← both_mem_lexemes shape grouped high, same, both_mem_lexemes other grouped' high']
  have operators : 2 ≤ shape.rank → 2 ≤ other.rank → (shape.rank = 2 ↔ other.rank = 2) := by
    intro high high'
    rw [← (startsWithOperator_lexemes shape grouped high).2, same,
      (startsWithOperator_lexemes other grouped' high').2]
  have most := shape.rank_le
  have most' := other.rank_le
  omega

/-! ### Structure from lexemes -/

theorem eq_of_lexemesOfAll (shapes others : List TypeShape)
    (each : ∀ shape ∈ shapes, ∀ other ∈ others, shape.lexemes = other.lexemes → shape = other)
    (same : lexemesOfAll shapes = lexemesOfAll others) : shapes = others := by
  induction shapes generalizing others with
  | nil =>
    cases others with
    | nil => rfl
    | cons => cases same
  | cons shape rest ih =>
    cases others with
    | nil => cases same
    | cons other others =>
      obtain ⟨first, later⟩ := List.cons.inj same
      rw [each shape (by simp) other (by simp) first,
        ih others (fun part inside part' inside' => each part (List.mem_cons_of_mem _ inside) part'
          (List.mem_cons_of_mem _ inside')) later]

theorem array_lexemes_ne (element : TypeShape) (lexeme : Lexeme) (other : lexeme ≠ .brackets) :
    (array element).lexemes ≠ [lexeme] := by
  intro same
  have last := congrArg List.getLast? same
  rw [lexemes, List.getLast?_concat] at last
  exact other (Option.some.inj last).symm

/-- The parts of an intersection or a union are found from the lexemes of the whole. -/
theorem lexemesOfAll_injective (sep : Lexeme) (least : Nat) (types others : List TypeShape)
    (free : ∀ part : TypeShape, part.isGrouped = true → least ≤ part.rank → sep ∉ part.lexemes)
    (some : 2 ≤ types.length) (some' : 2 ≤ others.length) (all : areGrouped least types = true)
    (all' : areGrouped least others = true)
    (same : joined [sep] (lexemesOfAll types) = joined [sep] (lexemesOfAll others)) :
    lexemesOfAll types = lexemesOfAll others := by
  have nonempty (types : List TypeShape) (some : 2 ≤ types.length) : lexemesOfAll types ≠ [] := by
    refine lexemesOfAll_ne_nil types ?_
    cases types with
    | nil => simp at some
    | cons => rfl
  have each (types : List TypeShape) (all : areGrouped least types = true) :
      ∀ piece ∈ lexemesOfAll types, sep ∉ piece := by
    intro piece inside
    rw [lexemesOfAll_eq_map] at inside
    obtain ⟨part, member, rfl⟩ := List.mem_map.mp inside
    obtain ⟨high, grouped⟩ := (areGrouped_iff least types).mp all part member
    exact free part grouped high
  exact joined_injective sep _ _ (nonempty types some) (nonempty others some') (each types all)
    (each others all') same

/-- A type that needs no parentheses is found from its lexemes. -/
theorem eq_of_lexemes (shape other : TypeShape) (grouped : shape.isGrouped = true)
    (grouped' : other.isGrouped = true) (same : shape.lexemes = other.lexemes) : shape = other := by
  induction shape using TypeShape.induction_on_parts generalizing other with
  | step shape ih =>
    have ranks := rank_eq_of_lexemes shape other grouped grouped' same
    have listed (least : Nat) (others : List TypeShape)
        (all : areGrouped least shape.parts = true) (all' : areGrouped least others = true)
        (same : lexemesOfAll shape.parts = lexemesOfAll others) : shape.parts = others := by
      refine eq_of_lexemesOfAll _ _ (fun part inside part' inside' same => ?_) same
      exact ih part inside part' ((areGrouped_iff least _).mp all part inside).2
        ((areGrouped_iff least _).mp all' part' inside').2 same
    cases shape with
    | union types =>
      cases other with
      | union types' =>
        simp only [isGrouped, Bool.and_eq_true, decide_eq_true_eq] at grouped grouped'
        have parts_eq := lexemesOfAll_injective .either 1 types types'
          (fun part grouped high there => by
            have low := (either_mem_lexemes part grouped).mp there
            omega)
          grouped.1 grouped'.1 grouped.2 grouped'.2 same
        rw [show types = types' from listed 1 types' grouped.2 grouped'.2 parts_eq]
      | _ => simp at ranks
    | intersection types =>
      cases other with
      | intersection types' =>
        simp only [isGrouped, Bool.and_eq_true, decide_eq_true_eq] at grouped grouped'
        have parts_eq := lexemesOfAll_injective .both 2 types types'
          (fun part grouped high there => by
            have low := (both_mem_lexemes part grouped (by omega)).mp there
            omega)
          grouped.1 grouped'.1 grouped.2 grouped'.2 same
        rw [show types = types' from listed 2 types' grouped.2 grouped'.2 parts_eq]
      | _ => simp at ranks
    | operator text target =>
      cases other with
      | operator text' target' =>
        simp only [isGrouped, Bool.and_eq_true, decide_eq_true_eq] at grouped grouped'
        obtain ⟨first, later⟩ := List.cons.inj same
        rw [Lexeme.operator.inj first,
          ih target (by simp [parts]) target' grouped.2 grouped'.2 later]
      | _ => simp at ranks
    | name text =>
      cases other with
      | name text' =>
        cases same
        rfl
      | array element' => exact absurd same.symm (array_lexemes_ne element' _ (by simp))
      | reference text' arguments' => cases same
      | tuple elements' => cases same
      | _ => simp at ranks
    | reference text arguments =>
      cases other with
      | reference text' arguments' =>
        obtain ⟨first, -⟩ := List.cons.inj same
        obtain ⟨rfl, parts_eq⟩ := Lexeme.reference.inj first
        simp only [isGrouped] at grouped grouped'
        rw [show arguments = arguments' from listed 0 arguments' grouped grouped' parts_eq]
      | array element' => exact absurd same.symm (array_lexemes_ne element' _ (by simp))
      | name text' => cases same
      | tuple elements' => cases same
      | _ => simp at ranks
    | tuple elements =>
      cases other with
      | tuple elements' =>
        obtain ⟨first, -⟩ := List.cons.inj same
        simp only [isGrouped] at grouped grouped'
        rw [show elements = elements' from
          listed 0 elements' grouped grouped' (Lexeme.tuple.inj first)]
      | array element' => exact absurd same.symm (array_lexemes_ne element' _ (by simp))
      | name text' => cases same
      | reference text' arguments' => cases same
      | _ => simp at ranks
    | array element =>
      cases other with
      | array element' =>
        simp only [isGrouped, Bool.and_eq_true, decide_eq_true_eq] at grouped grouped'
        rw [ih element (by simp [parts]) element' grouped.2 grouped'.2
          (List.append_cancel_right same)]
      | name text' => exact absurd same (array_lexemes_ne element _ (by simp))
      | reference text' arguments' => exact absurd same (array_lexemes_ne element _ (by simp))
      | tuple elements' => exact absurd same (array_lexemes_ne element _ (by simp))
      | _ => simp at ranks

end TypeShape

/-! ### Texts of descriptors -/

/-- What the text of a descriptor determines: its lexemes always, and its structure if no
parentheses are missed. -/
theorem Descriptor.render_determines (d e : Descriptor) (shape other : TypeShape)
    (hd : d.shape? = some shape) (he : e.shape? = some other) (proper : shape.isProper = true)
    (proper' : other.isProper = true) :
    (d.render = e.render ↔ shape.lexemes = other.lexemes) ∧
      (shape.isGrouped = true → other.isGrouped = true → d.render = e.render → shape = other) := by
  have text := d.toList_render shape hd proper
  have text' := e.toList_render other he proper'
  have lexemes : d.render = e.render ↔ shape.lexemes = other.lexemes := by
    rw [← String.toList_inj, text, text']
    constructor
    · intro same
      have phrase := shape.phrase_lexemes proper [] Tail.nil
      have phrase' := other.phrase_lexemes proper' [] Tail.nil
      rw [List.append_nil] at phrase phrase'
      exact phrase.unique _ _ phrase' same
    · intro same
      rw [same]
  exact ⟨lexemes, fun grouped grouped' same =>
    shape.eq_of_lexemes other grouped grouped' (lexemes.mp same)⟩

namespace Ambiguity

def a : Descriptor := .intrinsic "A" []

def b : Descriptor := .intrinsic "B" []

/-- An array whose items are of either type. -/
def arrayOfUnion : Descriptor := .array (.union [a, b] []) []

/-- Either a type or an array of the other. -/
def unionWithArray : Descriptor := .union [a, .array b []] []

/-- The same union with a reference in the place of an intrinsic type. -/
def unionOfReference : Descriptor :=
  .union [.reference "A" none none none none [], .array b []] []

/-- The unions are written alike, so that they have one structure. The array, whose items would have
to stand in parentheses, is written like them too, and has no more than the lexemes in common with
them. -/
theorem render_determines_unions :
    ∃ shape other split, unionWithArray.shape? = some shape ∧
      unionOfReference.shape? = some other ∧ arrayOfUnion.shape? = some split ∧
      shape = other ∧ split.lexemes = shape.lexemes := by
  refine ⟨_, _, _, rfl, rfl, rfl, ?_, ?_⟩
  · have unions := Descriptor.render_determines unionWithArray unionOfReference _ _ rfl rfl
      (by decide +kernel) (by decide +kernel)
    exact unions.2 (by decide +kernel) (by decide +kernel) (by decide +kernel)
  · have split := Descriptor.render_determines arrayOfUnion unionWithArray _ _ rfl rfl
      (by decide +kernel) (by decide +kernel)
    exact split.1.mp (by decide +kernel)

/-- Types of different structure that are written alike. -/
theorem render_arrayOfUnion :
    ∃ shape other, arrayOfUnion.shape? = some shape ∧ unionWithArray.shape? = some other ∧
      shape.isProper = true ∧ other.isProper = true ∧ shape ≠ other ∧
      arrayOfUnion.render = unionWithArray.render := by
  refine ⟨_, _, rfl, rfl, by decide +kernel, by decide +kernel, ?_, by decide +kernel⟩
  intro same
  cases same

end Ambiguity

end TsWorkshop
