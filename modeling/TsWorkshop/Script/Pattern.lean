import TsWorkshop.Text.Basic

/-!
Patterns of shell scripts: `*`, `?` and bracket expressions. A character that stood in quotes means
itself.
-/

namespace TsWorkshop.Script

/-- Characters, and whether each of them stood in quotes. -/
abbrev Marked := List (Char × Bool)

/-- The characters of a text, all of them in quotes or none. -/
def marked (inQuotes : Bool) (s : String) : Marked := s.toList.map fun c => (c, inQuotes)

def Marked.text (m : Marked) : String := String.ofList (m.map Prod.fst)

/-- An element of a pattern. -/
inductive PatternItem where
  | char (c : Char)
  | any
  | many
  | oneOf (negated : Bool) (ranges : List (Char × Char))
  deriving DecidableEq, Repr

/-- The ranges of a bracket expression up to the closing bracket, and what follows. -/
def ranges : Nat → Bool → Marked → Option (List (Char × Char) × Marked)
  | 0, _, _ => none
  | steps + 1, isFirst, m =>
    match m with
    | [] => none
    | (c, inQuotes) :: rest =>
      if c = ']' && !inQuotes && !isFirst then some ([], rest)
      else
        match rest with
        | ('-', false) :: (d, q) :: rest =>
          if d = ']' && !q then
            (ranges steps false (('-', false) :: (d, q) :: rest)).map fun (rs, m) =>
              ((c, c) :: rs, m)
          else (ranges steps false rest).map fun (rs, m) => ((c, d) :: rs, m)
        | rest => (ranges steps false rest).map fun (rs, m) => ((c, c) :: rs, m)

/-- The elements of a pattern. -/
def patternItems : Nat → Marked → List PatternItem
  | 0, _ => []
  | _, [] => []
  | steps + 1, (c, inQuotes) :: rest =>
    if inQuotes then .char c :: patternItems steps rest
    else if c = '*' then .many :: patternItems steps rest
    else if c = '?' then .any :: patternItems steps rest
    else if c = '[' then
      let (negated, inside) := match rest with
        | ('!', false) :: rest | ('^', false) :: rest => (true, rest)
        | rest => (false, rest)
      match ranges (rest.length + 1) true inside with
      | some (rs, rest) => .oneOf negated rs :: patternItems steps rest
      | none => .char c :: patternItems steps rest
    else .char c :: patternItems steps rest

/-- Whether a pattern matches a text as a whole. -/
def matchesItems : List PatternItem → List Char → Bool
  | [], cs => cs.isEmpty
  | .char p :: items, c :: cs => p = c && matchesItems items cs
  | .any :: items, _ :: cs => matchesItems items cs
  | .oneOf negated rs :: items, c :: cs =>
    (rs.any fun (low, high) => low ≤ c && c ≤ high) != negated && matchesItems items cs
  | .many :: items, cs =>
    matchesItems items cs ||
      match cs with
      | [] => false
      | _ :: cs => matchesItems (.many :: items) cs
  | _ :: _, [] => false

def matchesPattern (pattern : Marked) (text : List Char) : Bool :=
  matchesItems (patternItems (pattern.length + 1) pattern) text

/-- The lengths to try for a cut, the preferred one first. -/
def cutLengths (longest : Bool) (n : Nat) : List Nat :=
  if longest then (List.range (n + 1)).reverse else List.range (n + 1)

/-- The text without the part at its start that a pattern matches. -/
def cutStart (longest : Bool) (pattern : Marked) (text : List Char) : List Char :=
  match (cutLengths longest text.length).find? fun n => matchesPattern pattern (text.take n) with
  | some n => text.drop n
  | none => text

/-- The text without the part at its end that a pattern matches. -/
def cutEnd (longest : Bool) (pattern : Marked) (text : List Char) : List Char :=
  let size := text.length
  match (cutLengths longest size).find? fun n => matchesPattern pattern (text.drop (size - n)) with
  | some n => text.take (size - n)
  | none => text

end TsWorkshop.Script
