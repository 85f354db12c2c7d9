import TsWorkshop.Number.Binary64

/-!
Decimal literals: `digits.digits` with an optional sign and exponent, read as the nearest
floating-point number.
-/

namespace TsWorkshop

/-- The number `(-1)^negative * digits * 10^exponent`. -/
structure DecimalLiteral where
  negative : Bool
  digits : Nat
  exponent : Int
  deriving DecidableEq, Repr

namespace DecimalLiteral

/-- The sign at the front, if there is one. -/
def splitSign : List Char → Bool × List Char
  | '-' :: rest => (true, rest)
  | '+' :: rest => (false, rest)
  | cs => (false, cs)

/-- The exponent behind the digits: nothing, or `e` with a whole number. -/
def exponentOf : List Char → Option Int
  | [] => some 0
  | mark :: rest =>
    if mark = 'e' || mark = 'E' then
      let (negative, digits) := splitSign rest
      if digits.isEmpty || !digits.all Char.isDigit then none
      else
        let n : Int := Text.digitsValue 0 digits
        some (if negative then -n else n)
    else none

/-- Reads a literal. There must be a digit before or behind the point. -/
def ofChars? (cs : List Char) : Option DecimalLiteral :=
  let (negative, cs) := splitSign cs
  let whole := cs.takeWhile Char.isDigit
  let behind := cs.dropWhile Char.isDigit
  let (fraction, behind) := match behind with
    | '.' :: rest => (rest.takeWhile Char.isDigit, rest.dropWhile Char.isDigit)
    | rest => ([], rest)
  if whole.isEmpty && fraction.isEmpty then none
  else (exponentOf behind).map fun exponent =>
    { negative, digits := Text.digitsValue 0 (whole ++ fraction)
      exponent := exponent - (fraction.length : Int) }

/-- The nearest floating-point number; `none` if the literal is too large for a finite one. -/
def value (d : DecimalLiteral) : Option Binary64 :=
  let size : Int := (toString d.digits).toList.length
  if d.digits = 0 || d.exponent + size < -400 then
    some { Binary64.zero with negative := d.negative }
  else if 400 < d.exponent + size then none
  else if 0 ≤ d.exponent then Binary64.ofRatio d.negative (d.digits * Nat.pow 10 d.exponent.toNat) 1
  else Binary64.ofRatio d.negative d.digits (Nat.pow 10 (-d.exponent).toNat)

end DecimalLiteral

end TsWorkshop
