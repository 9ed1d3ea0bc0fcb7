/-
**Dates, and days counted in a row.**

Dates belong to the Gregorian calendar, which is taken to reach back without end.  Days are also
counted in a row, as astronomers do, so that moving by hours and comparing days is arithmetic; the
count that is zero belongs to the 24th of November of the year -4713.

The year is taken to begin in March, so that the odd day of a leap year is its last one.

Main definitions:

* `ContactBook.Calendar.Date` — a date;
* `ContactBook.Calendar.Date.isReal` — whether the calendar has it;
* `ContactBook.Calendar.Date.dayNumber`, `ContactBook.Calendar.Date.ofDayNumber` — its day in the
  count, and back.
-/

set_option autoImplicit false

namespace ContactBook.Calendar

/-- A year, a month and a day. -/
structure Date where
  year : Int
  month : Nat
  day : Nat
  deriving DecidableEq, Repr

namespace Date

/-- Whether a year has a 29th of February. -/
def isLeapYear (year : Int) : Bool := year % 4 == 0 && (year % 100 != 0 || year % 400 == 0)

/-- How many days a month has. -/
def daysInMonth (year : Int) (month : Nat) : Nat :=
  if month == 2 then (if isLeapYear year then 29 else 28)
  else if month == 4 || month == 6 || month == 9 || month == 11 then 30
  else 31

/-- Whether the calendar has such a date. -/
def isReal (d : Date) : Bool :=
  1 ≤ d.month && d.month ≤ 12 && 1 ≤ d.day && d.day ≤ daysInMonth d.year d.month

/-- The number of days in four hundred years. -/
def daysInEra : Int := 146097

/-- The day in the count of the first of March of the year zero. -/
def eraStart : Int := 1721120

/-- How many days of a year that begins in March come before a month, the months being counted from
March on. -/
def daysBefore (month : Nat) : Nat := (153 * month + 2) / 5

/-- The day of a date in the count.  A day past the end of its month counts on into the next. -/
def dayNumber (d : Date) : Int :=
  let year := if d.month ≤ 2 then d.year - 1 else d.year
  let yearOfEra := (year % 400).toNat
  let dayOfEra := yearOfEra * 365 + yearOfEra / 4 - yearOfEra / 100 +
    daysBefore ((d.month + 9) % 12) + d.day
  eraStart + year / 400 * daysInEra + dayOfEra - 1

/-- The date of a day in the count. -/
def ofDayNumber (n : Int) : Date :=
  let dayOfEra := ((n - eraStart) % daysInEra).toNat
  let yearOfEra := (dayOfEra - dayOfEra / 1460 + dayOfEra / 36524 - dayOfEra / 146096) / 365
  let dayOfYear := dayOfEra - (365 * yearOfEra + yearOfEra / 4 - yearOfEra / 100)
  let month := (5 * dayOfYear + 2) / 153
  let year := yearOfEra + (n - eraStart) / daysInEra * 400
  ⟨if month < 10 then year else year + 1, if month < 10 then month + 3 else month - 9,
    dayOfYear - daysBefore month + 1⟩

example : (Date.mk 2000 1 1).dayNumber = 2451545 := by decide +kernel
example : ofDayNumber 2451545 = ⟨2000, 1, 1⟩ := by decide +kernel
example : ofDayNumber 0 = ⟨-4713, 11, 24⟩ := by decide +kernel
example : ofDayNumber (Date.mk 2024 2 30).dayNumber = ⟨2024, 3, 1⟩ := by decide +kernel

end Date

end ContactBook.Calendar
