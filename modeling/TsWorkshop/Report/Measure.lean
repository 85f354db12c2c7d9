import TsWorkshop.Number.Binary64

/-!
Sizes and durations as texts with two decimals. Both are first rounded to a binary floating-point
number, and that number is then rounded to two decimals, a half going to the even neighbour.
-/

namespace TsWorkshop.Measure

/-- A ratio rounded to two decimals. -/
def twoDecimals (num den : Nat) : String :=
  let hundredths := Binary64.roundDiv (100 * num) den
  toString (hundredths / 100) ++ "." ++ Text.padStart 2 '0' (toString (hundredths % 100))

/-- The exact value of the floating-point number nearest to `num / den`. -/
def nearest (num den : Nat) : Nat × Nat :=
  match Binary64.ofRatio false num den with
  | some x => x.ratio
  | none => (num, den)

/-- The units behind bytes, each 1024 of the one before. -/
def largerUnits : List String := ["KB", "MB", "GB"]

/-- Divides by 1024 until the value is below 1024 or the units end; `den` is the divisor so far. -/
def inUnit (num den : Nat) (unit : String) : List String → Nat × Nat × String
  | [] => (num, den, unit)
  | next :: rest =>
    if 1024 * den ≤ num then inUnit num (1024 * den) next rest else (num, den, unit)

/-- A number of bytes in the largest unit that it fills. -/
def size (bytes : Nat) : String :=
  let (num, den) := nearest bytes 1
  match inUnit num den "B" largerUnits with
  | (num, den, unit) =>
    if unit = "B" then toString bytes ++ " B" else twoDecimals num den ++ " " ++ unit

/-- A length of time: whole seconds, and nanoseconds on top. -/
structure Duration where
  seconds : Nat
  nanoseconds : Nat
  deriving DecidableEq, Repr

/-- Seconds and nanoseconds, each rounded, added with one more rounding. -/
def Duration.inSeconds (d : Duration) : Nat × Nat :=
  let (a, b) := nearest d.seconds 1
  let (c, e) := nearest d.nanoseconds 1000000000
  nearest (a * e + c * b) (b * e)

/-- A duration in milliseconds below a second, in seconds below a minute, else in minutes and
seconds. -/
def Duration.text (d : Duration) : String :=
  let milliseconds := d.seconds * 1000 + d.nanoseconds / 1000000
  if milliseconds < 1000 then toString milliseconds ++ "ms"
  else if milliseconds < 60000 then
    let (num, den) := d.inSeconds
    twoDecimals num den ++ "s"
  else toString (d.seconds / 60) ++ "m " ++ toString (d.seconds % 60) ++ "s"

end TsWorkshop.Measure
