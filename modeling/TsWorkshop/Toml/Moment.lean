import TsWorkshop.Toml.Fault

/-!
Dates and times of TOML documents. Four digits and a hyphen start a date, and an hour with a colon
starts a time; from there on the parts must stand at their places and lie within their bounds.
-/

namespace TsWorkshop.Toml

/-- Two digits at the front, and what follows. -/
def digitPair? : List Char → Option (Nat × List Char)
  | a :: b :: rest =>
    if a.isDigit && b.isDigit then some (Text.digitsValue 0 [a, b], rest) else none
  | _ => none

namespace Moment

/-- A part of two digits within bounds. -/
def part (kind : String) (low high : Nat) (cs : List Char) : Except Fault (Nat × List Char) :=
  match digitPair? cs with
  | none => fault (.badMoment kind) cs
  | some (n, rest) =>
    if low ≤ n ∧ n ≤ high then .ok (n, rest) else fault (.unknownMoment kind) cs

/-- A mark between two parts. -/
def mark (kind : String) (expected : Char) (cs : List Char) : Except Fault (List Char) :=
  if cs.head? = some expected then .ok (cs.drop 1) else fault (.badMoment kind) cs

/-- The number of days of a month. -/
def daysOfMonth (year month : Nat) : Nat :=
  if month = 2 then
    if year % 4 = 0 ∧ (year % 100 ≠ 0 ∨ year % 400 = 0) then 29 else 28
  else if [4, 6, 9, 11].contains month then 30 else 31

/-- The name of what starts with a date. -/
def dateKind : String := "date-time"

/-- What follows a date, of which the year and its hyphen have been read. -/
def afterDate (year : Nat) (cs : List Char) : Except Fault (List Char) := do
  let (month, rest) ← part dateKind 1 12 cs
  let rest ← mark dateKind '-' rest
  let (day, behind) ← part dateKind 1 31 rest
  if day ≤ daysOfMonth year month then return behind else fault (.unknownMoment dateKind) rest

/-- What follows the hour of a time and the colon behind it, if these stand here. -/
def afterHour? (cs : List Char) : Option (List Char) :=
  match digitPair? cs with
  | some (hour, ':' :: rest) => if hour ≤ 23 then some rest else none
  | _ => none

/-- What follows the minutes and seconds of a time, a fraction among them. -/
def afterMinutes (kind : String) (cs : List Char) : Except Fault (List Char) := do
  let (_, rest) ← part kind 0 59 cs
  let rest ← mark kind ':' rest
  let (_, rest) ← part kind 0 60 rest
  match rest with
  | '.' :: c :: more => return if c.isDigit then more.dropWhile Char.isDigit else rest
  | _ => return rest

/-- What follows the distance from universal time, if one stands here. -/
def afterOffset (cs : List Char) : Except Fault (List Char) :=
  let kind := "time offset"
  match cs with
  | [] => .ok []
  | c :: rest =>
    if c = 'Z' || c = 'z' then .ok rest
    else if c = '+' || c = '-' then do
      let (_, rest) ← part kind 0 23 rest
      let rest ← mark kind ':' rest
      let (_, rest) ← part kind 0 59 rest
      return rest
    else .ok cs

/-- What follows the time behind a date, if one stands here. -/
def afterTime (cs : List Char) : Except Fault (List Char) :=
  match cs with
  | [] => .ok []
  | c :: behind =>
    match if c = 'T' || c = 't' || c = ' ' then afterHour? behind else none with
    | some minutes => do afterOffset (← afterMinutes dateKind minutes)
    | none => .ok cs

/-- What follows the date or time that starts here, if one does. -/
def after? (cs : List Char) : Option (Except Fault (List Char)) :=
  match digitPair? cs, afterHour? cs with
  | _, some minutes => some (afterMinutes "time" minutes)
  | some (century, rest), none =>
    match digitPair? rest with
    | some (year, '-' :: rest) =>
      some do afterTime (← afterDate (100 * century + year) rest)
    | _ => none
  | none, none => none

end Moment

end TsWorkshop.Toml
