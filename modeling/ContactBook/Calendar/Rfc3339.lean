/-
**Times as requests write them.**

A time is written as in RFC 3339: date, time of day and zone, all with a fixed number of digits.  A
`T`, a `t` or a space stands between date and time, and `Z`, `z` or a distance of hours and minutes
names the zone; the distance may also have the minus sign U+2212.  Of a fraction nine digits count.

Main definition:

* `ContactBook.Calendar.Instant.ofRfc3339?` — the instant of such a text.
-/

import ContactBook.Calendar.Instant

set_option autoImplicit false

namespace ContactBook.Calendar

open ContactBook.Decimal

/-- Reads one of the given characters. -/
def sign? (allowed : List Char) : List Char → Option (List Char)
  | [] => none
  | c :: rest => if allowed.contains c then some rest else none

/-- The nanoseconds that the digits of a fraction write. -/
def nanosecondsOf (digits : List Char) : Nat :=
  let kept := digits.take 9
  numberOf kept * Nat.pow 10 (9 - kept.length)

namespace Instant

/-- Reads a date. -/
def date? (cs : List Char) : Option (Date × List Char) := do
  let (year, cs) ← fixed? 4 0 9999 cs
  let (month, cs) ← fixed? 2 1 12 (← sign? ['-'] cs)
  let (day, cs) ← fixed? 2 1 31 (← sign? ['-'] cs)
  let date : Date := ⟨year, month, day⟩
  if date.isReal then some (date, cs) else none

/-- Reads a fraction, if there is one. -/
def fraction? (cs : List Char) : Option (Nat × List Char) :=
  match cs with
  | '.' :: rest =>
    let digits := rest.takeWhile Char.isDigit
    if digits.isEmpty then none else some (nanosecondsOf digits, rest.dropWhile Char.isDigit)
  | _ => some (0, cs)

/-- Reads a time of day, as the second of the day and nanoseconds. -/
def time? (cs : List Char) : Option (Nat × Nat × List Char) := do
  let (hour, cs) ← fixed? 2 0 23 cs
  let (minute, cs) ← fixed? 2 0 59 (← sign? [':'] cs)
  let (second, cs) ← fixed? 2 0 60 (← sign? [':'] cs)
  let (nanosecond, cs) ← fraction? cs
  let start := (hour * 60 + minute) * 60
  if second == 60 then some (start + 59, nanosecond + nanosecondsInSecond, cs)
  else some (start + second, nanosecond, cs)

/-- Reads a zone, as the seconds it is ahead of universal time. -/
def zone? (cs : List Char) : Option (Int × List Char) :=
  match cs with
  | [] => none
  | c :: rest =>
    if c == 'Z' || c == 'z' then some (0, rest)
    else if c == '+' || c == '-' || c == '\u2212' then do
      let (hour, rest) ← fixed? 2 0 23 rest
      let (minute, rest) ← fixed? 2 0 59 (← sign? [':'] rest)
      let distance : Int := (hour * 60 + minute) * 60
      some (if c == '+' then distance else -distance, rest)
    else none

/-- The instant that a text names. -/
def ofRfc3339? (text : String) : Option Instant := do
  let (date, cs) ← date? text.toList
  let (second, nanosecond, cs) ← time? (← sign? ['T', 't', ' '] cs)
  let (offset, cs) ← zone? cs
  if cs.isEmpty then some (ofLocal date second nanosecond offset) else none

example : (ofRfc3339? "2024-03-02T23:09:00-03:00").map listed = some "2024-03-03T02:09:00Z" := by
  decide +kernel
example : ofRfc3339? "2024-02-30T00:00:00Z" = none := by decide +kernel

end Instant

end ContactBook.Calendar
