/-!
# Dates and times of day

Instants are kept as a date of the Gregorian calendar, extended to all years, and a time of day in
nanoseconds. A leap second is a fraction of a second and more after second 59.

* `Date`, `TimeOfDay` -- the two parts, their ranges in the types;
* `Date.next`, `Date.previous` -- the neighbouring days, where the calendar has them.
-/

namespace Catalogue

/-- Whether a year has a 29th of February. -/
def isLeapYear (year : Int) : Bool := year % 4 == 0 && (year % 100 != 0 || year % 400 == 0)

/-- The number of days of a month; none has a number outside 1 to 12. -/
def daysInMonth (year : Int) (month : Nat) : Nat :=
  if month = 2 then (if isLeapYear year then 29 else 28)
  else if month = 4 ∨ month = 6 ∨ month = 9 ∨ month = 11 then 30
  else if 1 ≤ month ∧ month ≤ 12 then 31
  else 0

/-- The first and the last year of the calendar. -/
def yearBounds : Int × Int := (-262143, 262142)

/-- Whether a year, a month and a day name a date. -/
def isDate (year : Int) (month day : Nat) : Bool :=
  yearBounds.1 ≤ year && year ≤ yearBounds.2 && 1 ≤ day && day ≤ daysInMonth year month

/-- A date. -/
structure Date where
  year : Int
  month : Nat
  day : Nat
  valid : isDate year month day
  deriving DecidableEq

/-- A time of day. -/
structure TimeOfDay where
  hour : Nat
  minute : Nat
  second : Nat
  /-- Nanoseconds after the second; a thousand million and more within a leap second. -/
  nano : Nat
  hour_lt : hour < 24
  minute_lt : minute < 60
  second_lt : second < 60
  nano_lt : nano < 2000000000
  leap : 1000000000 ≤ nano → second = 59
  deriving DecidableEq

namespace Date

/-- The date with these numbers, if there is one. -/
def of? (year : Int) (month day : Nat) : Option Date :=
  if h : isDate year month day then some ⟨year, month, day, h⟩ else none

/-- The day after. -/
def next (d : Date) : Option Date :=
  if d.day < daysInMonth d.year d.month then of? d.year d.month (d.day + 1)
  else if d.month < 12 then of? d.year (d.month + 1) 1
  else of? (d.year + 1) 1 1

/-- The day before. -/
def previous (d : Date) : Option Date :=
  if 1 < d.day then of? d.year d.month (d.day - 1)
  else if 1 < d.month then of? d.year (d.month - 1) (daysInMonth d.year (d.month - 1))
  else of? (d.year - 1) 12 31

end Date

end Catalogue
