/-
**Instants, and their two written forms.**

An instant is a day in the count, a second of that day and nanoseconds, all in universal time.  A
leap second is the second before it with a thousand million nanoseconds more.

The store keeps an instant as a text whose order is that of the instants within the usual years:
date, time and the zone `+00:00`.  Listings write the same with a `T` and a `Z`.  Both give
the fraction of the second as nothing, three, six or nine digits, whichever is exact, and both give
years outside four digits a sign.

Main definitions:

* `ContactBook.Calendar.Instant` — an instant;
* `ContactBook.Calendar.Instant.ofLocal` — the instant of a local date and time;
* `ContactBook.Calendar.Instant.stored`, `ContactBook.Calendar.Instant.listed` — the written forms.
-/

import ContactBook.Calendar.Date
import ContactBook.Decimal.Natural

set_option autoImplicit false

namespace ContactBook.Calendar

open ContactBook.Decimal

/-- A point in time: a day in the count, a second of the day and nanoseconds of the second. -/
structure Instant where
  day : Int
  second : Nat
  nanosecond : Nat
  deriving DecidableEq, Repr

namespace Instant

/-- The number of seconds in a day. -/
def secondsInDay : Int := 86400

/-- The number of nanoseconds in a second. -/
def nanosecondsInSecond : Nat := 1000000000

/-- The instant of a date, a second of the day and nanoseconds that a clock shows which is ahead of
universal time by `offset` seconds. -/
def ofLocal (date : Date) (second nanosecond : Nat) (offset : Int) : Instant :=
  let total := date.dayNumber * secondsInDay + second - offset
  ⟨total / secondsInDay, (total % secondsInDay).toNat, nanosecond⟩

/-! ### Writing -/

/-- The text of a year: four digits, with a sign where four do not suffice. -/
def yearChars (year : Int) : List Char :=
  if year < 0 then '-' :: padded 4 year.natAbs
  else if year ≤ 9999 then padded 4 year.toNat
  else '+' :: padded 4 year.toNat

/-- The text of a date. -/
def dateChars (d : Date) : List Char :=
  yearChars d.year ++ '-' :: (padded 2 d.month ++ '-' :: padded 2 d.day)

/-- The text of a fraction of a second. -/
def fractionChars (nanosecond : Nat) : List Char :=
  if nanosecond == 0 then []
  else if nanosecond % 1000000 == 0 then '.' :: padded 3 (nanosecond / 1000000)
  else if nanosecond % 1000 == 0 then '.' :: padded 6 (nanosecond / 1000)
  else '.' :: padded 9 nanosecond

/-- The text of the time of day.  A leap second is the second sixty. -/
def timeChars (x : Instant) : List Char :=
  let leap := nanosecondsInSecond ≤ x.nanosecond
  let second := if leap then x.second % 60 + 1 else x.second % 60
  let fraction := if leap then x.nanosecond - nanosecondsInSecond else x.nanosecond
  padded 2 (x.second / 3600) ++ ':' :: (padded 2 (x.second / 60 % 60) ++
    ':' :: (padded 2 second ++ fractionChars fraction))

/-- The text of an instant with a sign between date and time, and a zone. -/
def chars (between : Char) (zone : List Char) (x : Instant) : List Char :=
  dateChars (Date.ofDayNumber x.day) ++ between :: (x.timeChars ++ zone)

/-- The text that the store keeps. -/
def stored (x : Instant) : String := String.ofList (x.chars ' ' ['+', '0', '0', ':', '0', '0'])

/-- The text in listings. -/
def listed (x : Instant) : String := String.ofList (x.chars 'T' ['Z'])

example : (ofLocal ⟨2024, 1, 1⟩ 3600 500000000 7200).stored = "2023-12-31 23:00:00.500+00:00" := by
  decide +kernel
example : (ofLocal ⟨0, 1, 1⟩ 0 0 3600).listed = "-0001-12-31T23:00:00Z" := by decide +kernel
example : (ofLocal ⟨2016, 12, 31⟩ 86399 1000000000 0).listed = "2016-12-31T23:59:60Z" := by
  decide +kernel

end Instant

end ContactBook.Calendar
