import Disasm32.Document.Text

/-! Which dates, times of day and distances from universal time there are. -/
namespace Disasm32

inductive CalendarError where
  | year (n : Nat)
  | month
  | day
  | hour
  | minute
  | second
  /-- A distance from universal time of a day or more, in minutes. -/
  | offset (minutes : Int)
  deriving DecidableEq, Repr

namespace CalendarError

def message : CalendarError → String
  | year n => "year " ++ String.ofList (Digits.ofNat 10 n) ++ " is out of range"
  | month => "month must be in 1..12"
  | day => "day is out of range for month"
  | hour => "hour must be in 0..23"
  | minute => "minute must be in 0..59"
  | second => "second must be in 0..59"
  | offset minutes =>
    "offset must be a timedelta strictly between -timedelta(hours=24) and " ++
      "timedelta(hours=24), not " ++ String.ofList (Value.spanText minutes) ++ "."

end CalendarError

namespace Calendar

def checkDate (year month day : Nat) : Except CalendarError Unit :=
  if year = 0 ∨ 9999 < year then .error (.year year)
  else if month = 0 ∨ 12 < month then .error .month
  else if day = 0 ∨ daysInMonth year month < day then .error .day
  else .ok ()

def checkTime (hour minute second : Nat) : Except CalendarError Unit :=
  if 23 < hour then .error .hour
  else if 59 < minute then .error .minute
  else if 59 < second then .error .second
  else .ok ()

def checkOffset (minutes : Int) : Except CalendarError Unit :=
  if 1440 ≤ minutes.natAbs then .error (.offset minutes) else .ok ()

/-- Refuses a moment that the calendar does not have; the distance is looked at first. -/
def checkMoment (t : Moment) : Except CalendarError Unit := do
  if let some minutes := t.offset then checkOffset minutes
  checkDate t.year t.month t.day
  checkTime t.hour t.minute t.second

end Calendar

end Disasm32
