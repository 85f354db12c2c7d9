import TsWorkshop.Text.Basic

/-!
Points in time, counted from the start of 1970 in the Gregorian calendar without leap seconds, and
their text in UTC with as many fraction digits as are needed in steps of three.
-/

namespace TsWorkshop

/-- A point in time: whole seconds since the start of 1970, and nanoseconds on top. -/
structure Timestamp where
  seconds : Int
  nanoseconds : Nat
  deriving DecidableEq, Repr

namespace Timestamp

/-- A day of the calendar. -/
structure Date where
  year : Int
  month : Nat
  day : Nat
  deriving DecidableEq, Repr

/-- The date `days` days after the start of 1970. Years are counted from March, so that the leap day
is the last one: 400 years have 146097 days, and five months from March on have 153. -/
def dateOfDay (days : Int) : Date :=
  let shifted := days + 719468
  let era := shifted.fdiv 146097
  let dayOfEra := (shifted - era * 146097).toNat
  let yearOfEra :=
    (dayOfEra - dayOfEra / 1460 + dayOfEra / 36524 - dayOfEra / 146096) / 365
  let dayOfYear := dayOfEra - (365 * yearOfEra + yearOfEra / 4 - yearOfEra / 100)
  let fromMarch := (5 * dayOfYear + 2) / 153
  let day := dayOfYear - (153 * fromMarch + 2) / 5 + 1
  let month := if fromMarch < 10 then fromMarch + 3 else fromMarch - 9
  let year := (yearOfEra : Int) + era * 400 + (if month ≤ 2 then 1 else 0)
  ⟨year, month, day⟩

def twoDigits (n : Nat) : String := Text.padStart 2 '0' (toString n)

/-- The fraction of a second: nothing, or three, six or nine digits. -/
def fraction (nanoseconds : Nat) : String :=
  if nanoseconds = 0 then ""
  else if nanoseconds % 1000000 = 0 then
    "." ++ Text.padStart 3 '0' (toString (nanoseconds / 1000000))
  else if nanoseconds % 1000 = 0 then "." ++ Text.padStart 6 '0' (toString (nanoseconds / 1000))
  else "." ++ Text.padStart 9 '0' (toString nanoseconds)

/-- A year: four digits from 0 to 9999, else with its sign. -/
def yearText (year : Int) : String :=
  if 0 ≤ year ∧ year ≤ 9999 then Text.padStart 4 '0' (toString year)
  else if year < 0 then "-" ++ Text.padStart 4 '0' (toString (-year))
  else "+" ++ Text.padStart 5 '0' (toString year)

/-- The text of a point in time. -/
def text (t : Timestamp) : String :=
  let date := dateOfDay (t.seconds.fdiv 86400)
  let second := (t.seconds - (t.seconds.fdiv 86400) * 86400).toNat
  yearText date.year ++ "-" ++ twoDigits date.month ++ "-" ++ twoDigits date.day ++ "T" ++
    twoDigits (second / 3600) ++ ":" ++ twoDigits (second / 60 % 60) ++ ":" ++
    twoDigits (second % 60) ++ fraction t.nanoseconds ++ "Z"

end Timestamp

end TsWorkshop
