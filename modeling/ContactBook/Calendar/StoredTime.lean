/-
**Reading times back from the store.**

A time column holds text, and more texts are read than are ever written: fields may be short of
digits and have blanks before them, years may have a sign, and the zone may be left out, in which
case the time is universal.  A text that is no time is judged by the form without a zone, field by
field from its start.

Main definitions:

* `ContactBook.Calendar.TimeFault` — what is wrong with a text;
* `ContactBook.Calendar.Instant.ofStored` — the instant of a text.
-/

import ContactBook.Calendar.Rfc3339
import ContactBook.Text.Blank

set_option autoImplicit false

namespace ContactBook.Calendar

open ContactBook.Decimal

/-- What is wrong with the text of a time. -/
inductive TimeFault where
  | tooShort
  | invalid
  | outOfRange
  | tooLong
  deriving DecidableEq, Repr

/-- The wording of what is wrong. -/
def TimeFault.message : TimeFault → String
  | .tooShort => "premature end of input"
  | .invalid => "input contains invalid characters"
  | .outOfRange => "input is out of range"
  | .tooLong => "trailing input"

namespace StoredTime

/-- Reads on past blanks. -/
def skipBlank (cs : List Char) : List Char := cs.dropWhile Text.isBlank

/-- The greatest number that a field can hold before it is looked at. -/
def greatestNumber : Nat := Nat.pow 2 63 - 1

/-- Reads a number of one digit or more, of which no more than `width` are taken. -/
def number (width : Option Nat) (cs : List Char) : Except TimeFault (Nat × List Char) :=
  let digits := (match width with
    | some width => cs.take width
    | none => cs).takeWhile Char.isDigit
  if cs.isEmpty then .error .tooShort
  else if digits.isEmpty then .error .invalid
  else if greatestNumber < numberOf digits then .error .outOfRange
  else .ok (numberOf digits, cs.drop digits.length)

/-- Reads a field of two digits at most, between `least` and `greatest`. -/
def field (least greatest : Nat) (cs : List Char) : Except TimeFault (Nat × List Char) := do
  let (n, rest) ← number (some 2) (skipBlank cs)
  if n < least || greatest < n then throw .outOfRange
  return (n, rest)

/-- The greatest number that a year is written with. -/
def greatestYear : Nat := Nat.pow 2 31 - 1

/-- Reads a year: four digits at most, or any number of digits after a sign. -/
def year (cs : List Char) : Except TimeFault (Int × List Char) := do
  let (negative, (n, rest)) ← match skipBlank cs with
    | '-' :: rest => (number none rest).map (true, ·)
    | '+' :: rest => (number none rest).map (false, ·)
    | cs => (number (some 4) cs).map (false, ·)
  if greatestYear + (if negative then 1 else 0) < n then throw .outOfRange
  return (if negative then -(n : Int) else n, rest)

/-- Reads the given character. -/
def exactly (c : Char) (cs : List Char) : Except TimeFault (List Char) :=
  match cs with
  | [] => .error .tooShort
  | d :: rest => if c == d then .ok rest else .error .invalid

/-- Reads a fraction of a second, if there is one. -/
def fraction (cs : List Char) : Except TimeFault (Nat × List Char) :=
  match cs with
  | '.' :: rest => do
    let _ ← number (some 9) rest
    return (nanosecondsOf (rest.takeWhile Char.isDigit), rest.dropWhile Char.isDigit)
  | _ => .ok (0, cs)

/-- The fields of a text. -/
structure Fields where
  date : Date
  hour : Nat
  minute : Nat
  second : Nat
  nanosecond : Nat

/-- Reads what stands between date and time: a `T` if there is one at its usual place, otherwise
blanks or nothing. -/
def between (withT : Bool) (cs : List Char) : Except TimeFault (List Char) :=
  if withT then exactly 'T' cs else .ok (skipBlank cs)

/-- Reads date and time. -/
def fields (withT : Bool) (cs : List Char) : Except TimeFault (Fields × List Char) := do
  let (year, cs) ← year cs
  let (month, cs) ← field 1 12 (← exactly '-' cs)
  let (day, cs) ← field 1 31 (← exactly '-' cs)
  let cs ← between withT cs
  let (hour, cs) ← field 0 23 cs
  let (minute, cs) ← field 0 59 (← exactly ':' cs)
  let (second, cs) ← field 0 60 (← exactly ':' cs)
  let (nanosecond, cs) ← fraction cs
  return (⟨⟨year, month, day⟩, hour, minute, second, nanosecond⟩, cs)

/-- The years that dates can have. -/
def yearInRange (year : Int) : Bool := -262143 ≤ year && year ≤ 262142

/-- The instant of fields, if they are those of a real date. -/
def Fields.instant (f : Fields) (offset : Int) : Except TimeFault Instant :=
  if !f.date.isReal || !yearInRange f.date.year then .error .outOfRange
  else
    let start := (f.hour * 60 + f.minute) * 60
    if f.second == 60 then
      .ok (.ofLocal f.date (start + 59) (f.nanosecond + Instant.nanosecondsInSecond) offset)
    else .ok (.ofLocal f.date (start + f.second) f.nanosecond offset)

/-! ### Zones -/

/-- Reads two digits, if the first of them is at most `greatest`. -/
def twoDigits? (greatest : Char) : List Char → Option (Nat × List Char)
  | a :: b :: rest =>
    if a.isDigit && b.isDigit && a ≤ greatest then some (digitValue a * 10 + digitValue b, rest)
    else none
  | _ => none

/-- Reads the minutes of a zone, which may be left out at the end of the text. -/
def zoneMinutes? (cs : List Char) : Option (Nat × List Char) :=
  match cs with
  | [] => some (0, [])
  | _ => twoDigits? '5' cs

/-- Reads the hours and minutes of a zone, as seconds. -/
def zoneDistance? (cs : List Char) : Option (Int × List Char) := do
  let (hour, cs) ← twoDigits? '9' cs
  let (minute, cs) ← zoneMinutes? (cs.dropWhile fun c => c == ':' || Text.isBlank c)
  let distance : Int := (hour * 60 + minute) * 60
  if distance < Instant.secondsInDay then some (distance, cs) else none

/-- The distance in seconds of a zone that ends a text. -/
def zone? (cs : List Char) : Option Int := do
  let (offset, cs) ← match skipBlank cs with
    | [] => none
    | c :: rest =>
      if c == 'Z' || c == 'z' then some (0, rest)
      else if c == '+' then zoneDistance? rest
      else if c == '-' || c == '\u2212' then (zoneDistance? rest).map fun (d, rest) => (-d, rest)
      else none
  if cs.isEmpty then some offset else none

/-- Whether a day in the count lies in the years that dates can have. -/
def dayInRange (day : Int) : Bool :=
  (Date.mk (-262143) 1 1).dayNumber ≤ day && day ≤ (Date.mk 262142 12 31).dayNumber

/-- The instant of a text with a zone, if its universal date is one that dates can have too. -/
def zoned? (withT : Bool) (cs : List Char) : Option Instant := do
  let (f, cs) ← (fields withT cs).toOption
  let x ← (f.instant (← zone? cs)).toOption
  if dayInRange x.day then some x else none

/-- The instant of a text without a zone, which is universal time. -/
def unzoned (withT : Bool) (cs : List Char) : Except TimeFault Instant := do
  let (f, cs) ← fields withT cs
  if !cs.isEmpty then throw .tooLong
  f.instant 0

/-- Whether the eleventh byte of a text is a `T`. -/
def hasT (text : String) : Bool := text.toUTF8.toList[10]? == some 0x54

end StoredTime

/-- The instant that a text of the store names. -/
def Instant.ofStored (text : String) : Except TimeFault Instant :=
  let withT := StoredTime.hasT text
  match StoredTime.zoned? withT text.toList with
  | some x => .ok x
  | none => StoredTime.unzoned withT text.toList

/-- What is wrong with a text, if it names no instant. -/
def TimeFault.of? (text : String) : Option TimeFault :=
  match Instant.ofStored text with
  | .ok _ => none
  | .error fault => some fault

example : (Instant.ofStored "2024-03-05 17:45:00+02").toOption.map Instant.listed =
    some "2024-03-05T15:45:00Z" := by decide +kernel
example : TimeFault.of? "+262142-12-31 23:30:00-01:00" = some .tooLong := by decide +kernel
example : TimeFault.of? "2024-03-05" = some .tooShort := by decide +kernel
example : TimeFault.of? "2024-02-30 10:00:00" = some .outOfRange := by decide +kernel

end ContactBook.Calendar
