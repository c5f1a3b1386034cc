/-! Calendar dates with a time of day, and the count of days on which their comparison rests. Two
moments that name their distance from universal time are the same if they are the same instant. -/
namespace Disasm32

namespace Calendar

def isLeap (year : Nat) : Bool :=
  year % 4 == 0 && (year % 100 != 0 || year % 400 == 0)

def daysInMonth (year month : Nat) : Nat :=
  if month = 2 then if isLeap year then 29 else 28
  else if [4, 6, 9, 11].contains month then 30
  else 31

def daysBefore (year month : Nat) : Nat :=
  (List.range (month - 1)).foldl (fun days m => days + daysInMonth year (m + 1)) 0

/-- The number of a day; the first day of the year 1 has number 1. -/
def dayNumber (year month day : Nat) : Nat :=
  let past := year - 1
  past * 365 + past / 4 - past / 100 + past / 400 + daysBefore year month + day

end Calendar

/-- A calendar date with a time of day and a distance from universal time in minutes. -/
structure Moment where
  year : Nat
  month : Nat
  day : Nat
  hour : Nat
  minute : Nat
  second : Nat
  microsecond : Nat
  offset : Option Int
  deriving DecidableEq, Repr

namespace Moment

/-- The minutes that have passed since the day before the year 1, by a clock at the given distance
from universal time. -/
def minutesAt (t : Moment) (offset : Int) : Int :=
  Calendar.dayNumber t.year t.month t.day * 1440 + t.hour * 60 + t.minute - offset

/-- Whether two moments are the same. One that does not name its distance from universal time is
never the same as one that does. -/
def isSame (t u : Moment) : Bool :=
  match t.offset, u.offset with
  | none, none => t == u
  | some a, some b => t.minutesAt a == u.minutesAt b && t.second == u.second &&
      t.microsecond == u.microsecond
  | _, _ => false

end Moment

end Disasm32
