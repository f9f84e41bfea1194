import Testbed.Text.Numeral

/-!
# Points in time

The seconds since the beginning of 1970 as a date and a time of day in UTC. Years are counted
from March, so that the leap day is the last day of its year.
-/

namespace Testbed.Log

open Text

/-- The lengths of the months from March to February. -/
def monthLengths : List Nat := [31, 30, 31, 30, 31, 31, 30, 31, 30, 31, 31, 29]

/-- The month and the day within it, both counted from zero, for a day of a year. -/
def monthAndDay (day : Nat) : List Nat → Nat × Nat
  | [] => (0, day)
  | length :: rest =>
    if day < length then (0, day)
    else
      let (month, day) := monthAndDay (day - length) rest
      (month + 1, day)

structure Date where
  year : Nat
  month : Nat
  day : Nat

/-- The day of the calendar for the days since the first of March of the year zero.
A cycle of 400 years consists of centuries, these of groups of four years, and these of years.
The last century of a cycle and the last year of a group may have one day more. -/
def date (days : Nat) : Date :=
  let inCycle := days % 146097
  let century := min 3 (inCycle / 36524)
  let inCentury := inCycle - century * 36524
  let inGroup := inCentury % 1461
  let yearOfGroup := min 3 (inGroup / 365)
  let year := days / 146097 * 400 + century * 100 + inCentury / 1461 * 4 + yearOfGroup
  let (month, day) := monthAndDay (inGroup - yearOfGroup * 365) monthLengths
  if month < 10 then ⟨year, month + 3, day + 1⟩ else ⟨year + 1, month - 9, day + 1⟩

def daysBefore1970 : Nat := 719468

def timestamp (seconds : Nat) : String :=
  let date := date (seconds / 86400 + daysBefore1970)
  let second := seconds % 86400
  String.ofList (padded 4 date.year ++ '-' :: padded 2 date.month ++ '-' :: padded 2 date.day ++
    'T' :: padded 2 (second / 3600) ++ ':' :: padded 2 (second / 60 % 60) ++
    ':' :: padded 2 (second % 60) ++ ['Z'])

end Testbed.Log
