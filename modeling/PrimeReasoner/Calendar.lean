/-!
# Days and moments

A day of the calendar, and a moment of a day with the offset of its clock.

* `Date.isValid` says which triples of numbers are days: years from 1 to 9999, and the months as long as
  they are.
* `Moment.isValid` adds the clock: hours, minutes and seconds within their bounds, and an offset of less
  than a day.
-/

namespace PrimeReasoner

/-- A day of the calendar. -/
structure Date where
  /-- The year. -/
  year : Nat
  /-- The month, counted from one. -/
  month : Nat
  /-- The day of the month, counted from one. -/
  day : Nat
deriving DecidableEq, Repr

namespace Date

/-- Does the year have a day more than others? -/
def isLeap (year : Nat) : Bool := (year % 4 == 0 && year % 100 != 0) || year % 400 == 0

/-- The number of days of a month. -/
def daysIn (year month : Nat) : Nat :=
  if month = 2 then (if isLeap year then 29 else 28)
  else if month = 4 || month = 6 || month = 9 || month = 11 then 30
  else 31

/-- Is there such a day? -/
def isValid (date : Date) : Bool :=
  1 ≤ date.year && date.year ≤ 9999 && 1 ≤ date.month && date.month ≤ 12 && 1 ≤ date.day &&
    date.day ≤ daysIn date.year date.month

end Date

/-- A moment of a day. -/
structure Moment where
  /-- The day. -/
  date : Date
  /-- The hour. -/
  hour : Nat
  /-- The minute. -/
  minute : Nat
  /-- The second. -/
  second : Nat
  /-- The millionth part of the second. -/
  micro : Nat := 0
  /-- How many minutes the clock is ahead, if that is known. -/
  offset : Option Int := none
deriving DecidableEq, Repr

namespace Moment

/-- The number of minutes of a day. -/
def minutesPerDay : Nat := 1440

/-- Is there such a moment? -/
def isValid (moment : Moment) : Bool :=
  moment.date.isValid && moment.hour < 24 && moment.minute < 60 && moment.second < 60 &&
    moment.micro < 1000000 && moment.offset.all fun offset => offset.natAbs < minutesPerDay

end Moment

end PrimeReasoner
