/-!
# Moments

The text of a moment in universal time, which is counted in nanoseconds from the beginning of 1970:
date and time of day with as many decimals of a second as are needed in groups of three.
-/

namespace CaskAudit.Moment

/-- A number in decimal with zeros before it up to a number of digits. -/
def digits (count n : Nat) : String :=
  let s := toString n
  String.ofList (List.replicate (count - s.length) '0') ++ s

/-- Whether a year has a 29 February. -/
def isLeap (year : Nat) : Bool := year % 4 = 0 && (year % 100 ≠ 0 || year % 400 = 0)

/-- The lengths of the months of a year. -/
def monthLengths (year : Nat) : List Nat :=
  [31, if isLeap year then 29 else 28, 31, 30, 31, 30, 31, 31, 30, 31, 30, 31]

/-- The year of a day and the day's place in it, both from a first year; `fuel` years are enough. -/
def yearOf (fuel year day : Nat) : Nat × Nat :=
  match fuel with
  | 0 => (year, day)
  | fuel + 1 =>
    let length := if isLeap year then 366 else 365
    if day < length then (year, day) else yearOf fuel (year + 1) (day - length)

/-- The month of a day and the day's place in it, both from a first month. -/
def monthOf (month day : Nat) : List Nat → Nat × Nat
  | [] => (month, day)
  | length :: lengths =>
    if day < length then (month, day) else monthOf (month + 1) (day - length) lengths

/-- The date of a day that is counted from the beginning of 1970. -/
def date (day : Nat) : String :=
  let (year, dayOfYear) := yearOf (day / 365 + 1) 1970 day
  let (month, dayOfMonth) := monthOf 1 dayOfYear (monthLengths year)
  digits 4 year ++ "-" ++ digits 2 month ++ "-" ++ digits 2 (dayOfMonth + 1)

/-- The time of a second that is counted from midnight. -/
def timeOfDay (second : Nat) : String :=
  digits 2 (second / 3600) ++ ":" ++ digits 2 (second / 60 % 60) ++ ":" ++ digits 2 (second % 60)

/-- The decimals of a second, a point before them, unless there are none. -/
def decimals (nanoseconds : Nat) : String :=
  if nanoseconds = 0 then ""
  else if nanoseconds % 1000000 = 0 then "." ++ digits 3 (nanoseconds / 1000000)
  else if nanoseconds % 1000 = 0 then "." ++ digits 6 (nanoseconds / 1000)
  else "." ++ digits 9 nanoseconds

/-- The text of a moment. -/
def text (nanoseconds : Nat) : String :=
  let seconds := nanoseconds / 1000000000
  date (seconds / 86400) ++ "T" ++ timeOfDay (seconds % 86400) ++
    decimals (nanoseconds % 1000000000) ++ "+00:00"

end CaskAudit.Moment
