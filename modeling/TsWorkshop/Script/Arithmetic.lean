import TsWorkshop.Number.Word
import TsWorkshop.Assoc
import TsWorkshop.Text.Basic

/-!
Arithmetic expressions of shell scripts, on integers. Variables stand for the numbers in their
texts, and an expression may assign to them.
-/

namespace TsWorkshop.Script.Arithmetic

inductive Token where
  | number (n : Int)
  | name (s : String)
  | operator (s : String)
  deriving DecidableEq, Repr

/-- The operators, longer ones before those that they start with. -/
def operators : List String :=
  ["<<=", ">>=", "&&", "||", "==", "!=", "<=", ">=", "<<", ">>", "+=", "-=", "*=", "/=", "%=", "+",
   "-", "*", "/", "%", "<", ">", "=", "!", "~", "&", "|", "^", "(", ")", "?", ":"]

/-- A number: hexadecimal behind `0x`, octal behind `0`, else decimal. -/
def numberOf (digits : List Char) : Option Int :=
  match digits with
  | '0' :: x :: rest =>
    if x = 'x' || x = 'X' then
      (rest.foldlM (fun n c => (Text.hexValue? c).map fun d => 16 * n + d) 0).map Int.ofNat
    else
      ((x :: rest).foldlM (fun n c => (Text.digitValue? c).bind fun d =>
        if d < 8 then some (8 * n + d) else none) 0).map Int.ofNat
  | digits =>
    if digits.all Char.isDigit then some (Text.digitsValue 0 digits : Nat) else none

/-- The tokens of an expression. Each step reads one of them. -/
def tokens : Nat → List Char → Option (List Token)
  | 0, _ => none
  | _ + 1, [] => some []
  | steps + 1, c :: rest =>
    if c = ' ' || c = '\t' || c = '\n' then tokens steps rest
    else if c.isDigit then do
      let word := (c :: rest).takeWhile Char.isAlphanum
      let n ← numberOf word
      return .number n :: (← tokens steps ((c :: rest).drop word.length))
    else if c.isAlpha || c = '_' then do
      let word := (c :: rest).takeWhile fun c => c.isAlphanum || c = '_'
      return .name (String.ofList word) :: (← tokens steps ((c :: rest).drop word.length))
    else do
      let op ← operators.find? fun op => (Text.stripStart op.toList (c :: rest)).isSome
      return .operator op :: (← tokens steps ((c :: rest).drop op.toList.length))

/-- How tightly the operators with two operands bind. -/
def precedence? : String → Option Nat
  | "||" => some 1
  | "&&" => some 2
  | "|" => some 3
  | "^" => some 4
  | "&" => some 5
  | "==" | "!=" => some 6
  | "<" | ">" | "<=" | ">=" => some 7
  | "<<" | ">>" => some 8
  | "+" | "-" => some 9
  | "*" | "/" | "%" => some 10
  | _ => none

def ofBool (b : Bool) : Int := if b then 1 else 0

/-- A number on 64 bits. -/
def wrap (n : Int) : Int := Int.bmod n Word.size

/-- Combines the bits of two numbers. -/
def bitwise (f : Nat → Nat → Nat) (a b : Int) : Int :=
  wrap (f (a % Word.size).toNat (b % Word.size).toNat)

/-- The value of an operator; `none` for a division by zero. -/
def apply (op : String) (a b : Int) : Option Int :=
  match op with
  | "||" => some (ofBool (a ≠ 0 || b ≠ 0))
  | "&&" => some (ofBool (a ≠ 0 && b ≠ 0))
  | "|" => some (bitwise (· ||| ·) a b)
  | "^" => some (bitwise (· ^^^ ·) a b)
  | "&" => some (bitwise (· &&& ·) a b)
  | "==" => some (ofBool (a = b))
  | "!=" => some (ofBool (a ≠ b))
  | "<" => some (ofBool (a < b))
  | ">" => some (ofBool (b < a))
  | "<=" => some (ofBool (a ≤ b))
  | ">=" => some (ofBool (b ≤ a))
  | "<<" => some (wrap (a * Nat.pow 2 (b % 64).toNat))
  | ">>" => some (a.fdiv (Nat.pow 2 (b % 64).toNat))
  | "+" => some (wrap (a + b))
  | "-" => some (wrap (a - b))
  | "*" => some (wrap (a * b))
  | "/" => if b = 0 then none else some (wrap (a.tdiv b))
  | "%" => if b = 0 then none else some (a.tmod b)
  | _ => none

/-- The number in the text of a variable; an unset variable counts as 0. -/
def valueOf (bindings : Assoc String) (name : String) : Int :=
  match (bindings.get? name).map String.toList with
  | some ('-' :: digits) => -(numberOf digits).getD 0
  | some digits => (numberOf digits).getD 0
  | none => 0

/-- What is left of the tokens, with the variables as they are now. -/
abbrev Rest := Assoc String × List Token

mutual

/-- An assignment, a choice, or what binds tighter. -/
def expression : Nat → Rest → Option (Int × Rest)
  | 0, _ => none
  | steps + 1, (bindings, ts) =>
    match ts with
    | .name x :: .operator op :: rest =>
      let plain := (Text.stripEnd? "=" op).getD ""
      if op = "=" then do
        let (n, bindings, rest) ← expression steps (bindings, rest)
        return (n, bindings.put x (toString n), rest)
      else if (precedence? plain).isSome && (precedence? op).isNone then do
        let (n, bindings, rest) ← expression steps (bindings, rest)
        let n ← apply plain (valueOf bindings x) n
        return (n, bindings.put x (toString n), rest)
      else choice steps (bindings, ts)
    | ts => choice steps (bindings, ts)

def choice : Nat → Rest → Option (Int × Rest)
  | 0, _ => none
  | steps + 1, rest => do
    let (n, bindings, ts) ← operand steps rest
    let (n, bindings, ts) ← binary steps 1 n (bindings, ts)
    match ts with
    | .operator "?" :: ts => do
      let (a, _, ts) ← expression steps (bindings, ts)
      match ts with
      | .operator ":" :: ts => do
        let (b, bindings, ts) ← expression steps (bindings, ts)
        return (if n ≠ 0 then a else b, bindings, ts)
      | _ => none
    | ts => return (n, bindings, ts)

/-- The operators that bind at least as tightly as `level`, applied to `left`. -/
def binary : Nat → Nat → Int → Rest → Option (Int × Rest)
  | 0, _, _, _ => none
  | steps + 1, level, left, (bindings, ts) =>
    match ts with
    | .operator op :: rest =>
      match precedence? op with
      | some p =>
        if p < level then some (left, bindings, ts)
        else do
          let (right, bindings, rest) ← operand steps (bindings, rest)
          let (right, bindings, rest) ← binary steps (p + 1) right (bindings, rest)
          let n ← apply op left right
          binary steps level n (bindings, rest)
      | none => some (left, bindings, ts)
    | ts => some (left, bindings, ts)

/-- A number, a variable, a bracket, or a sign before one of them. -/
def operand : Nat → Rest → Option (Int × Rest)
  | 0, _ => none
  | steps + 1, (bindings, ts) =>
    match ts with
    | .number n :: rest => some (n, bindings, rest)
    | .name x :: rest => some (valueOf bindings x, bindings, rest)
    | .operator "(" :: rest => do
      let (n, bindings, rest) ← expression steps (bindings, rest)
      match rest with
      | .operator ")" :: rest => return (n, bindings, rest)
      | _ => none
    | .operator "-" :: rest => do
      let (n, rest) ← operand steps (bindings, rest)
      return (wrap (-n), rest)
    | .operator "+" :: rest => operand steps (bindings, rest)
    | .operator "!" :: rest => do
      let (n, rest) ← operand steps (bindings, rest)
      return (ofBool (n = 0), rest)
    | .operator "~" :: rest => do
      let (n, rest) ← operand steps (bindings, rest)
      return (-n - 1, rest)
    | _ => none

end

/-- The value of an expression, and the variables afterwards. The empty expression is 0. -/
def evaluate (bindings : Assoc String) (text : String) : Option (Int × Assoc String) := do
  let ts ← tokens (text.toList.length + 1) text.toList
  if ts.isEmpty then return (0, bindings)
  else
    let (n, bindings, rest) ← expression (4 * ts.length + 4) (bindings, ts)
    if rest.isEmpty then return (n, bindings) else none

end TsWorkshop.Script.Arithmetic
