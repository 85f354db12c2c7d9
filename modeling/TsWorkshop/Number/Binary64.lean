import TsWorkshop.Text.Basic

/-!
Finite binary floating-point numbers with 53 significant bits, in exact arithmetic on natural
numbers. `Binary64.ofRatio` rounds a ratio to the nearest such number, ties to the even one;
`Binary64.digits` finds the fewest decimal digits that read back as the same number.
-/

namespace TsWorkshop

/-- The number `(-1)^negative * mantissa * 2^exponent`. Numbers made by this module are in lowest
form: the mantissa is below `2^53`, and at least `2^52` unless the exponent is `-1074`. -/
structure Binary64 where
  negative : Bool
  mantissa : Nat
  exponent : Int
  deriving DecidableEq, Repr, Inhabited

namespace Binary64

def zero : Binary64 := ⟨false, 0, -1074⟩

/-- The smallest mantissa of 53 bits. -/
def minNormal : Nat := 4503599627370496

def isZero (x : Binary64) : Bool := x.mantissa = 0

/-- The quotient rounded to the nearest whole number, a tie to the even neighbour. -/
def roundDiv (num den : Nat) : Nat :=
  let q := num / den
  let r := num % den
  if 2 * r < den then q
  else if den < 2 * r then q + 1
  else if q % 2 = 0 then q else q + 1

/-- `num / den * 2^(-shift)` rounded to a whole number. -/
def scaledRound (num den : Nat) (shift : Int) : Nat :=
  if 0 ≤ shift then roundDiv num (den * Nat.pow 2 shift.toNat)
  else roundDiv (num * Nat.pow 2 (-shift).toNat) den

/-- The largest `e` with `2^e ≤ num / den`. -/
def floorLog2 (num den : Nat) : Int :=
  let guess : Int := (num.log2 : Int) - (den.log2 : Int)
  let tooBig :=
    if 0 ≤ guess then num < den * Nat.pow 2 guess.toNat
    else num * Nat.pow 2 (-guess).toNat < den
  if tooBig then guess - 1 else guess

/-- The number nearest to `num / den` with the given sign; `none` if it is too large to be
finite. -/
def ofRatio (negative : Bool) (num den : Nat) : Option Binary64 :=
  if num = 0 then some ⟨negative, 0, -1074⟩
  else
    let exponent := max (floorLog2 num den - 52) (-1074)
    let mantissa := scaledRound num den exponent
    let (mantissa, exponent) :=
      if mantissa = 2 * minNormal then (minNormal, exponent + 1) else (mantissa, exponent)
    if 971 < exponent then none else some ⟨negative, mantissa, exponent⟩

/-- The magnitude as a ratio of natural numbers. -/
def ratio (x : Binary64) : Nat × Nat :=
  if 0 ≤ x.exponent then (x.mantissa * Nat.pow 2 x.exponent.toNat, 1)
  else (x.mantissa, Nat.pow 2 (-x.exponent).toNat)

/-- The number nearest to a whole number. -/
def ofNat (n : Nat) : Option Binary64 := ofRatio false n 1

/-- The rounded product of two magnitudes, with the sign of the first. -/
def mul (x y : Binary64) : Option Binary64 :=
  let (a, b) := x.ratio
  let (c, d) := y.ratio
  ofRatio x.negative (a * c) (b * d)

/-- The rounded quotient of two magnitudes, with the sign of the first. The divisor is not zero. -/
def div (x y : Binary64) : Option Binary64 :=
  let (a, b) := x.ratio
  let (c, d) := y.ratio
  ofRatio x.negative (a * d) (b * c)

/-- `10^n`, rounded. -/
def tenPow (n : Nat) : Option Binary64 := ofRatio false (Nat.pow 10 n) 1

/-- `significand * 10^exponent` computed with one rounding of the significand and one of the
product or quotient with a power of ten. Below `10^-308` the value is first divided by `10^308`.
`none` means that the value is too large. -/
def scaled (negative : Bool) (significand : Nat) (exponent : Int) : Option Binary64 := do
  let x ← ofRatio negative significand 1
  if 0 ≤ exponent then
    if 308 < exponent then if x.isZero then some x else none
    else x.mul (← tenPow exponent.toNat)
  else
    shrink x (-exponent).toNat ((-exponent).toNat / 308)
where
  /-- Divides by `10^n`, in steps of `10^308`. -/
  shrink (x : Binary64) (n : Nat) : Nat → Option Binary64
    | 0 => do x.div (← tenPow n)
    | steps + 1 =>
      if n ≤ 308 then do x.div (← tenPow n)
      else if x.isZero then some x
      else do shrink (← x.div (← tenPow 308)) (n - 308) steps

/-- A decimal approximation `digits * 10^exponent`. -/
structure Decimal where
  digits : Nat
  exponent : Int
  deriving DecidableEq, Repr

/-- Whether `d * 10^e`, as a ratio, is at least `lowNum / den` and at most `highNum / den`;
`closed` says whether the ends belong to the interval. -/
def liesIn (closed : Bool) (lowNum highNum den : Nat) (d : Nat) (e : Int) : Bool :=
  let (a, b) := if 0 ≤ e then (d * Nat.pow 10 e.toNat, 1) else (d, Nat.pow 10 (-e).toNat)
  if closed then lowNum * b ≤ a * den && a * den ≤ highNum * b
  else lowNum * b < a * den && a * den < highNum * b

/-- The largest `e` with `10^e ≤ num / den`, found upwards or downwards from an estimate. -/
def floorLog10 (num den : Nat) : Int :=
  let guess : Int := (floorLog2 num den * 30103) / 100000
  let atLeast (e : Int) : Bool :=
    if 0 ≤ e then den * Nat.pow 10 e.toNat ≤ num else den ≤ num * Nat.pow 10 (-e).toNat
  if atLeast (guess + 1) then guess + 1 else if atLeast guess then guess else guess - 1

/-- Tries the decimals with `count` digits, then with one more, up to `count + more`. Of the two
neighbours of the value on a grid the nearer one that reads back is taken, in a tie the even one. -/
def shortestFrom (closed : Bool) (lowNum highNum num den : Nat) (top : Int) (count : Nat) :
    Nat → Decimal
  | 0 => ⟨num / den, 0⟩
  | more + 1 =>
    let e : Int := top + 1 - (count : Int)
    let (a, b) :=
      if 0 ≤ e then (num, den * Nat.pow 10 e.toNat) else (num * Nat.pow 10 (-e).toNat, den)
    let below := a / b
    let nearest := roundDiv a b
    let other := if nearest = below then below + 1 else below
    if liesIn closed lowNum highNum den nearest e then ⟨nearest, e⟩
    else if liesIn closed lowNum highNum den other e then ⟨other, e⟩
    else shortestFrom closed lowNum highNum num den top (count + 1) more

/-- The shortest decimal that reads back as the (non-zero) magnitude of `x`. -/
def shortest (x : Binary64) : Decimal :=
  let (m, den) := x.ratio
  -- everything is scaled by 4 so that the ends of the rounding interval are whole
  let unit := if 0 ≤ x.exponent then Nat.pow 2 x.exponent.toNat else 1
  let lowGap := if x.mantissa = minNormal ∧ -1074 < x.exponent then unit else 2 * unit
  let num := 4 * m
  let top := floorLog10 m den
  shortestFrom (x.mantissa % 2 = 0) (num - lowGap) (num + 2 * unit) num (4 * den) top 1 17

/-- Strips zeros at the end of the digits. -/
def Decimal.normal (d : Decimal) : Nat → Decimal
  | 0 => d
  | fuel + 1 =>
    if d.digits ≠ 0 ∧ d.digits % 10 = 0 then Decimal.normal ⟨d.digits / 10, d.exponent + 1⟩ fuel
    else d

/-- The digits of a decimal, with the place of the point counted from their start. -/
def digits (x : Binary64) : List Char × Int :=
  if x.isZero then (['0'], 1)
  else
    let d := x.shortest.normal 400
    let cs := (toString d.digits).toList
    (cs, (cs.length : Int) + d.exponent)

def sign (x : Binary64) : String := if x.negative then "-" else ""

/-- Plain notation: digits with the point at its place, zeros filled in, and `ending` after a whole
number. -/
def plain (ending : String) (x : Binary64) : String :=
  let (cs, point) := x.digits
  let body :=
    if point ≤ 0 then "0." ++ Text.repeated (-point).toNat '0' ++ String.ofList cs
    else if cs.length ≤ point.toNat then
      String.ofList cs ++ Text.repeated (point.toNat - cs.length) '0' ++ ending
    else String.ofList (cs.take point.toNat) ++ "." ++ String.ofList (cs.drop point.toNat)
  x.sign ++ body

/-- Plain notation from `1e-5` up to `1e16`, else one digit before the point and a signed
exponent. -/
def scientific (x : Binary64) : String :=
  let (cs, point) := x.digits
  if -5 < point ∧ point ≤ 16 then x.plain ".0"
  else
    let exponent := point - 1
    let head := String.ofList (cs.take 1)
    let tail := if cs.length = 1 then "" else "." ++ String.ofList (cs.drop 1)
    let mark := if exponent < 0 then "e-" else "e+"
    x.sign ++ head ++ tail ++ mark ++ toString exponent.natAbs

end Binary64

end TsWorkshop
