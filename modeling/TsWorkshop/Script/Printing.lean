import TsWorkshop.Number.Word
import TsWorkshop.Text.Basic

/-!
What the commands `echo` and `printf` of the shell print.
-/

namespace TsWorkshop.Script

def bytesOf (s : String) : List UInt8 := s.toUTF8.toList

/-! ### Escapes -/

/-- The bytes of the escapes of a single character. -/
def escapeBytes : List (Char × UInt8) :=
  [('a', 7), ('b', 8), ('e', 27), ('f', 12), ('n', 10), ('r', 13), ('t', 9), ('v', 11), ('\\', 92)]

/-- The byte that up to three octal digits at the front stand for, and how many there are. -/
def octal (cs : List Char) : UInt8 × Nat :=
  let digits := (cs.take 3).takeWhile fun c => '0' ≤ c && c ≤ '7'
  ((digits.foldl (fun n c => 8 * n + (c.toNat - '0'.toNat)) 0).toUInt8, digits.length)

/-- The bytes of what stands behind a backslash, and how many characters they take. A backslash
before any other character stands for itself. -/
def escape (cs : List Char) : List UInt8 × Nat :=
  match cs with
  | [] => ([92], 0)
  | c :: _ =>
    match escapeBytes.lookup c with
    | some b => ([b], 1)
    | none =>
      match octal cs with
      | (_, 0) => ([92], 0)
      | (b, n) => ([b], n)

/-- The bytes of a text with escapes, in which octal digits follow a zero; `\\c` ends the output,
and then the flag is set. -/
def unescaped : Nat → List Char → List UInt8 × Bool
  | 0, _ => ([], false)
  | _, [] => ([], false)
  | steps + 1, '\\' :: cs =>
    match cs with
    | 'c' :: _ => ([], true)
    | '0' :: rest =>
      let (b, n) := octal rest
      let (more, stopped) := unescaped steps (rest.drop n)
      (b :: more, stopped)
    | cs =>
      let (bytes, n) := escape cs
      let (more, stopped) := unescaped steps (cs.drop n)
      (bytes ++ more, stopped)
  | steps + 1, c :: cs =>
    let (more, stopped) := unescaped steps cs
    (bytesOf c.toString ++ more, stopped)

/-! ### Printing -/

/-- The arguments with blanks between them; the flag says that nothing more is printed. -/
def echoed : List String → List UInt8 × Bool
  | [] => ([], false)
  | [arg] => unescaped (arg.toList.length + 1) arg.toList
  | arg :: rest =>
    match unescaped (arg.toList.length + 1) arg.toList with
    | (bytes, true) => (bytes, true)
    | (bytes, false) =>
      let (more, stopped) := echoed rest
      (bytes ++ 32 :: more, stopped)

/-- What `echo` prints. -/
def echo (args : List String) : List UInt8 :=
  let (newline, args) := match args with
    | "-n" :: rest => (false, rest)
    | args => (true, args)
  let (bytes, stopped) := echoed args
  if newline && !stopped then bytes ++ [10] else bytes

/-- How a conversion fills its field. -/
structure FieldRule where
  left : Bool := false
  zeros : Bool := false
  width : Nat := 0
  precision : Option Nat := none

/-- The flags, the width and the precision of a conversion, and what follows. -/
def fieldRule : Nat → FieldRule → List Char → FieldRule × List Char
  | 0, rule, cs => (rule, cs)
  | steps + 1, rule, cs =>
    match cs with
    | '-' :: rest => fieldRule steps { rule with left := true } rest
    | '0' :: rest => fieldRule steps { rule with zeros := true } rest
    | '+' :: rest | ' ' :: rest | '#' :: rest => fieldRule steps rule rest
    | cs =>
      let digits := cs.takeWhile Char.isDigit
      let rule := { rule with width := Text.digitsValue 0 digits }
      match cs.drop digits.length with
      | '.' :: rest =>
        let digits := rest.takeWhile Char.isDigit
        ({ rule with precision := some (Text.digitsValue 0 digits) }, rest.drop digits.length)
      | rest => (rule, rest)

/-- Fills a field. -/
def FieldRule.fill (rule : FieldRule) (zeros : Bool) (bytes : List UInt8) : List UInt8 :=
  let missing := rule.width - bytes.length
  if rule.left then bytes ++ List.replicate missing 32
  else if zeros && rule.zeros then List.replicate missing 48 ++ bytes
  else List.replicate missing 32 ++ bytes

/-- The digits of a number at the front, of base 16 behind `0x`, 8 behind `0`, else 10: the number
and what follows. -/
def magnitude (cs : List Char) : Nat × List Char :=
  let inBase (base : Nat) (cs : List Char) : Nat × List Char :=
    let isDigit (c : Char) : Bool := (Text.hexValue? c).any (· < base)
    ((cs.takeWhile isDigit).foldl (fun n c => base * n + (Text.hexValue? c).getD 0) 0,
      cs.dropWhile isDigit)
  match cs with
  | '0' :: 'x' :: rest => inBase 16 rest
  | '0' :: rest => inBase 8 rest
  | cs => inBase 10 cs

/-- The number in an argument, and what follows it. A quote stands before a character whose code is
meant. -/
def numberOf (arg : String) : Int × List Char :=
  match arg.toList with
  | '-' :: rest => let (n, rest) := magnitude rest; (-(n : Int), rest)
  | '+' :: rest => let (n, rest) := magnitude rest; (n, rest)
  | '\'' :: c :: _ | '"' :: c :: _ => (c.toNat, [])
  | cs => let (n, rest) := magnitude cs; (n, rest)

/-- What is printed: the bytes, the complaints, and the code. `stopped` says that nothing more is
printed. -/
structure Printed where
  bytes : List UInt8 := []
  complaints : List String := []
  code : Nat := 0
  stopped : Bool := false

namespace Printed

/-- One thing behind another, unless the first one is the last. -/
def followedBy (first : Printed) (second : Unit → Printed) : Printed :=
  if first.stopped then first
  else
    let second := second ()
    { bytes := first.bytes ++ second.bytes, complaints := first.complaints ++ second.complaints
      code := if second.code = 0 then first.code else second.code, stopped := second.stopped }

/-- What is said about an argument that is no number as a whole. -/
def ofNumber (bytes : List UInt8) (arg : String) : Printed :=
  match (numberOf arg).2 with
  | [] => { bytes }
  | rest =>
    let message := if rest.length = arg.toList.length then ": expected numeric value"
      else ": not completely converted"
    { bytes, complaints := [arg ++ message], code := 1 }

end Printed

/-- An argument converted as asked for. -/
def converted (rule : FieldRule) (conversion : Char) (arg : String) : Printed :=
  let cut (bytes : List UInt8) : List UInt8 :=
    match rule.precision with
    | some n => bytes.take n
    | none => bytes
  let inBase (base : Nat) : List UInt8 :=
    bytesOf (String.ofList (Nat.toDigits base ((numberOf arg).1 % Word.size).toNat))
  let number (digits : List UInt8) : Printed := .ofNumber (rule.fill true digits) arg
  match conversion with
  | 's' => { bytes := rule.fill false (cut (bytesOf arg)) }
  | 'b' =>
    let (bytes, stopped) := unescaped (arg.toList.length + 1) arg.toList
    { bytes := rule.fill false (cut bytes), stopped }
  | 'c' => { bytes := rule.fill false ((bytesOf arg).take 1) }
  | 'd' | 'i' => number (bytesOf (toString (numberOf arg).1))
  | 'u' => number (inBase 10)
  | 'o' => number (inBase 8)
  | 'x' => number (inBase 16)
  | 'X' => number ((inBase 16).map fun b => if 97 ≤ b then b - 32 else b)
  | c =>
    { complaints := ["%" ++ c.toString ++ ": invalid directive"], code := 2, stopped := true }

/-- Prints a format once; also the arguments that are left. -/
def formatOnce : Nat → List Char → List String → Printed × List String
  | 0, _, args => ({}, args)
  | _, [], args => ({}, args)
  | steps + 1, '%' :: '%' :: cs, args =>
    let (more, args) := formatOnce steps cs args
    (Printed.followedBy { bytes := [37] } fun _ => more, args)
  | steps + 1, '%' :: cs, args =>
    match fieldRule cs.length {} cs with
    | (_, []) =>
      ({ complaints := ["%: missing conversion character"], code := 2, stopped := true }, args)
    | (rule, conversion :: cs) =>
      let (more, left) := formatOnce steps cs args.tail
      ((converted rule conversion (args.head?.getD "")).followedBy fun _ => more, left)
  | steps + 1, '\\' :: cs, args =>
    match cs with
    | 'c' :: _ => ({ stopped := true }, args)
    | cs =>
      let (bytes, n) := escape cs
      let (more, args) := formatOnce steps (cs.drop n) args
      (Printed.followedBy { bytes } fun _ => more, args)
  | steps + 1, c :: cs, args =>
    let (more, args) := formatOnce steps cs args
    (Printed.followedBy { bytes := bytesOf c.toString } fun _ => more, args)

/-- Prints a format again while it consumes arguments that are left. -/
def formatAll : Nat → List Char → List String → Printed
  | 0, _, _ => {}
  | steps + 1, format, args =>
    let (printed, left) := formatOnce (format.length + 1) format args
    if left.isEmpty || left.length = args.length then printed
    else printed.followedBy fun _ => formatAll steps format left

/-- What `printf` prints. -/
def printf (format : String) (args : List String) : Printed :=
  formatAll (args.length + 1) format.toList args

end TsWorkshop.Script
