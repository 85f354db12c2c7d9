/-!
Small functions on text: joining, blank space, lines, padding. A text is a `String`; what is
computed from its characters goes through `List Char`, so that each function is a recursion on data.
-/

namespace TsWorkshop

/-- The characters with the Unicode property White_Space. -/
def isBlank (c : Char) : Bool :=
  let n := c.toNat
  (9 ≤ n && n ≤ 13) || n = 0x20 || n = 0x85 || n = 0xA0 || n = 0x1680 ||
    (0x2000 ≤ n && n ≤ 0x200A) || n = 0x2028 || n = 0x2029 || n = 0x202F || n = 0x205F || n = 0x3000

namespace Text

/-- The pieces one after another, with `sep` between neighbours. -/
def join (sep : String) : List String → String
  | [] => ""
  | [piece] => piece
  | piece :: next :: rest => piece ++ sep ++ join sep (next :: rest)

/-- A text that holds nothing but blank characters. -/
def allBlank (s : String) : Bool := s.toList.all isBlank

/-- The characters less the blank ones at the front. -/
def dropBlank (cs : List Char) : List Char := cs.dropWhile isBlank

/-- The characters less the ones satisfying `p` at the end. -/
def dropEndWhile (p : Char → Bool) (cs : List Char) : List Char :=
  (cs.reverse.dropWhile p).reverse

/-- The characters less the blank ones at both ends. -/
def trimBlank (cs : List Char) : List Char := dropEndWhile isBlank (dropBlank cs)

/-- The text less the blank characters at both ends. -/
def trim (s : String) : String := String.ofList (trimBlank s.toList)

/-- The text less the blank characters at its end. -/
def trimEnd (s : String) : String := String.ofList (dropEndWhile isBlank s.toList)

/-- Splits at every occurrence of the character `sep`; there is always at least one piece. -/
def splitChars (sep : Char) : List Char → List (List Char)
  | [] => [[]]
  | c :: rest =>
    if c = sep then [] :: splitChars sep rest
    else match splitChars sep rest with
      | [] => [[c]]
      | piece :: pieces => (c :: piece) :: pieces

/-- Splits a text at every occurrence of the character `sep`. -/
def split (sep : Char) (s : String) : List String :=
  (splitChars sep s.toList).map String.ofList

/-- One carriage return at the end of a line belongs to the line's end. -/
def dropCarriageReturn (cs : List Char) : List Char :=
  match cs.getLast? with
  | some '\r' => cs.dropLast
  | _ => cs

/-- The lines of a text: pieces ended by a line feed, where the end of the text also ends a last,
non-empty piece, and a carriage return before the line feed is no part of the line. -/
def linesOf : List Char → List (List Char)
  | cs =>
    let pieces := splitChars '\n' cs
    let ended := pieces.dropLast.map dropCarriageReturn
    match pieces.getLast? with
    | some [] | none => ended
    | some last => ended ++ [last]

/-- The lines of a text. -/
def lines (s : String) : List String := (linesOf s.toList).map String.ofList

/-- `n` copies of a character. -/
def repeated (n : Nat) (c : Char) : String := String.ofList (List.replicate n c)

/-- `s` behind enough copies of `c` to be `width` characters long. -/
def padStart (width : Nat) (c : Char) (s : String) : String :=
  repeated (width - s.toList.length) c ++ s

/-- Whether `cs` begins with `start`; then the rest behind it. -/
def stripStart : List Char → List Char → Option (List Char)
  | [], cs => some cs
  | _ :: _, [] => none
  | p :: start, c :: cs => if p = c then stripStart start cs else none

/-- Whether `s` begins with `start`. -/
def startsWith (start s : String) : Bool := (stripStart start.toList s.toList).isSome

/-- The part behind `start`, if `s` begins with it. -/
def stripStart? (start s : String) : Option String :=
  (stripStart start.toList s.toList).map String.ofList

/-- The part before `ending`, if `s` ends with it. -/
def stripEnd? (ending s : String) : Option String :=
  (stripStart ending.toList.reverse s.toList.reverse).map fun rest => String.ofList rest.reverse

/-- Whether `s` ends with `ending`. -/
def endsWith (ending s : String) : Bool := (stripEnd? ending s).isSome

/-- Splits the characters around the first occurrence of `mark`. -/
def splitAround (mark : List Char) : List Char → Option (List Char × List Char)
  | [] => if mark.isEmpty then some ([], []) else none
  | c :: rest =>
    match stripStart mark (c :: rest) with
    | some after => some ([], after)
    | none => (splitAround mark rest).map fun (before, after) => (c :: before, after)

/-- Whether `part` occurs in `s`. -/
def contains (part s : String) : Bool := (splitAround part.toList s.toList).isSome

/-- A decimal digit's value. -/
def digitValue? (c : Char) : Option Nat :=
  if '0' ≤ c ∧ c ≤ '9' then some (c.toNat - '0'.toNat) else none

/-- The value of a hexadecimal digit of either case. -/
def hexValue? (c : Char) : Option Nat :=
  if '0' ≤ c ∧ c ≤ '9' then some (c.toNat - '0'.toNat)
  else if 'a' ≤ c ∧ c ≤ 'f' then some (c.toNat - 'a'.toNat + 10)
  else if 'A' ≤ c ∧ c ≤ 'F' then some (c.toNat - 'A'.toNat + 10)
  else none

/-- The number that decimal digits denote, appended to `start`. -/
def digitsValue (start : Nat) (digits : List Char) : Nat :=
  digits.foldl (fun n c => 10 * n + (digitValue? c).getD 0) start

/-- Lower case of the letters A to Z; every other character is kept. -/
def asciiLower (s : String) : String := String.ofList (s.toList.map Char.toLower)

/-- Upper case of the letters a to z; every other character is kept. -/
def asciiUpper (s : String) : String := String.ofList (s.toList.map Char.toUpper)

/-- A hexadecimal digit in lower case. -/
def hexDigit (n : Nat) : Char :=
  if n < 10 then Char.ofNat ('0'.toNat + n) else Char.ofNat ('a'.toNat + (n - 10))

/-- The last `width` hexadecimal digits of `n`, in lower case. -/
def hex : Nat → Nat → List Char
  | 0, _ => []
  | width + 1, n => hex width (n / 16) ++ [hexDigit (n % 16)]

/-- A number of at most 64 bits in hexadecimal, without zeros at the front. -/
def shortHex (n : Nat) : List Char :=
  match (hex 16 n).dropWhile (· == '0') with
  | [] => ['0']
  | digits => digits

/-- Pieces of characters with `sep` between neighbours. -/
def joinChars (sep : Char) : List (List Char) → List Char
  | [] => []
  | [piece] => piece
  | piece :: next :: rest => piece ++ sep :: joinChars sep (next :: rest)

end Text

end TsWorkshop
