/-!
The ranges of machine words, and sums of words. What becomes of a sum that is no word depends on how
a program was built (`Overflow`).
-/

namespace TsWorkshop.Word

/-- The number of words of 64 bits. -/
def size : Nat := 18446744073709551616

/-- The largest word of 64 bits without sign. -/
def unsignedMax : Nat := 18446744073709551615

/-- The largest word of 64 bits with sign. -/
def signedMax : Int := 9223372036854775807

/-- The smallest word of 64 bits with sign. -/
def signedMin : Int := -9223372036854775808

/-- The largest word of 32 bits without sign. -/
def unsignedMax32 : Nat := 4294967295

/-- The largest word of 128 bits without sign. -/
def unsignedMax128 : Nat := 340282366920938463463374607431768211455

/-- The smallest word of 128 bits with sign. -/
def signedMin128 : Int := -170141183460469231731687303715884105728

/-- Whether a number is a word of 64 bits with sign. -/
def isSigned (n : Int) : Bool := signedMin ≤ n && n ≤ signedMax

/-- What a program does about a sum that is no word of 64 bits. -/
inductive Overflow where
  /-- It stops. -/
  | stops
  /-- It goes on with what is left of the sum in 64 bits. -/
  | wraps
  deriving DecidableEq, Repr

/-- The sum of two words of 64 bits, unless the program stops at it. -/
def add? (overflow : Overflow) (a b : Nat) : Option Nat :=
  if a + b < size then some (a + b)
  else
    match overflow with
    | .stops => none
    | .wraps => some ((a + b) % size)

theorem add?_stops (a b : Nat) : add? .stops a b = if a + b < size then some (a + b) else none :=
  rfl

theorem add?_wraps (a b : Nat) : add? .wraps a b = some ((a + b) % size) := by
  unfold add?
  split
  · rename_i fits
    rw [Nat.mod_eq_of_lt fits]
  · rfl

end TsWorkshop.Word
