/-
**Days of time values.**

Equality of times looks at the day alone.  The day is read from text, and many texts name one: a
date; a date with a time of day, with or without a zone; a time of day alone, which belongs to the
first of January 2000; a word for the present day; or a number, which counts days from noon on.  A
text that is none of these has no day.

The day is that of universal time, so a zone can move it.  A date past the end of its month, such as
a 30th of February, counts on into the next month.  The hour may be 24; that moves the day only
where the day has to be counted: with a zone, late in a month, or without a date.  Of a fraction of
a second no more than 999 thousandths count, so seconds never move it.  But the digits of a fraction
are read as one floating-point number, and a text in which that number is too great has no day.

Which day is the present one is told to the reader of a text; no other text depends on it.

Main definitions:

* `ContactBook.Calendar.TimeValue.fractionFits` — whether the digits of a fraction can be read;
* `ContactBook.Calendar.namesPresent` — whether a text is a word for the present day;
* `ContactBook.Calendar.dayOf?` — the day in the count that a text names.
-/

import ContactBook.Calendar.Date
import ContactBook.Decimal.Binary64
import ContactBook.Decimal.Natural

set_option autoImplicit false

namespace ContactBook.Calendar

open ContactBook.Decimal

namespace TimeValue

/-- The characters that may stand around the parts of a time value. -/
def isSpace (c : Char) : Bool := c == ' ' || (0x09 ≤ c.toNat && c.toNat ≤ 0x0D)

/-- Reads on past spaces. -/
def skipSpace (cs : List Char) : List Char := cs.dropWhile isSpace

/-- Reads one character. -/
def exactly? (c : Char) : List Char → Option (List Char)
  | [] => none
  | d :: rest => if c == d then some rest else none

/-! ### Times of day -/

/-- A time of day: minutes from midnight, and minutes that its zone is ahead of universal time. -/
structure Clock where
  minute : Nat
  zone : Int
  deriving DecidableEq, Repr

/-- The distance of a zone, which must end the text. -/
def zone? (cs : List Char) : Option Int :=
  match skipSpace cs with
  | [] => some 0
  | c :: rest =>
    if c == 'Z' || c == 'z' then if (skipSpace rest).isEmpty then some 0 else none
    else if c == '+' || c == '-' then do
      let (hour, rest) ← fixed? 2 0 14 rest
      let (minute, rest) ← fixed? 2 0 59 (← exactly? ':' rest)
      let distance : Int := hour * 60 + minute
      if (skipSpace rest).isEmpty then some (if c == '-' then -distance else distance) else none
    else none

/-- Appends a digit to a number: its code is added to ten times the number, and the code of zero
taken away, with each result rounded. -/
def appendDigit? (x : Magnitude) (c : Char) : Option Magnitude := do
  let (a, b) := x.ratio
  let (a, b) := (← Magnitude.ofRatio (a * 10) b).ratio
  let (a, b) := (← Magnitude.ofRatio (a + c.toNat * b) b).ratio
  Magnitude.ofRatio (a - '0'.toNat * b) b

/-- Whether the digits of a fraction make up a number that the format holds. -/
def fractionFits (digits : List Char) : Bool := (digits.foldlM appendDigit? Magnitude.zero).isSome

/-- The rest of a text after the seconds of a time, if it has any. -/
def afterSeconds? (cs : List Char) : Option (List Char) :=
  match cs with
  | ':' :: rest => do
    let (_, rest) ← fixed? 2 0 59 rest
    match rest with
    | '.' :: d :: rest =>
      if !d.isDigit then some ('.' :: d :: rest)
      else if fractionFits (d :: rest.takeWhile Char.isDigit) then
        some (rest.dropWhile Char.isDigit)
      else none
    | _ => some rest
  | _ => some cs

/-- The time of day that is a whole text. -/
def clock? (cs : List Char) : Option Clock := do
  let (hour, cs) ← fixed? 2 0 24 cs
  let (minute, cs) ← fixed? 2 0 59 (← exactly? ':' cs)
  let zone ← zone? (← afterSeconds? cs)
  some ⟨hour * 60 + minute, zone⟩

/-! ### Dates -/

/-- Reads a date, which need not be real. -/
def date? (cs : List Char) : Option (Date × List Char) := do
  let (negative, cs) := match cs with
    | '-' :: rest => (true, rest)
    | _ => (false, cs)
  let (year, cs) ← fixed? 4 0 9999 cs
  let (month, cs) ← fixed? 2 1 12 (← exactly? '-' cs)
  let (day, cs) ← fixed? 2 1 31 (← exactly? '-' cs)
  some (⟨if negative then -(year : Int) else year, month, day⟩, cs)

/-- The number of minutes in a day. -/
def minutesInDay : Int := 1440

/-- The minutes from midnight of day zero that a day and a time of day make. -/
def minuteOf (day : Int) (clock : Clock) : Int := day * minutesInDay + clock.minute - clock.zone

/-- The least year of a time value. -/
def leastYear : Int := -4713

/-- Whether an instant, in minutes from midnight of day zero, lies in the time that can be named:
from noon of day zero to the end of the year 9999. -/
def inRange (minute : Int) : Bool := 720 ≤ minute && minute < 5373485 * minutesInDay

/-- The day of a date with a time of day.  The day that is written stands, unless a zone may have
moved it or its month may be too short. -/
def dayAt? (date : Date) (clock : Clock) : Option Int :=
  let minute := minuteOf date.dayNumber clock
  if date.year < leastYear || !inRange minute then none
  else if clock.zone == 0 && date.day ≤ 28 then some date.dayNumber
  else some (minute / minutesInDay)

/-- The day of a text that begins with a date. -/
def dated? (cs : List Char) : Option Int := do
  let (date, cs) ← date? cs
  let cs := cs.dropWhile fun c => isSpace c || c == 'T'
  if cs.isEmpty then dayAt? date ⟨0, 0⟩ else dayAt? date (← clock? cs)

/-- The day of a time of day alone. -/
def undated? (cs : List Char) : Option Int := do
  let minute := minuteOf (Date.mk 2000 1 1).dayNumber (← clock? cs)
  some (minute / minutesInDay)

/-! ### Numbers -/

/-- A decimal `n * 10 ^ exponent`, and whether it is negative. -/
structure Decimal where
  negative : Bool
  n : Nat
  exponent : Int

/-- A whole number takes further digits while it is below this, so that it always fits 64 bits. -/
def significandLimit : Nat := 1844674407370955160

/-- Appends digits to a whole number while it is small enough; also counts them. -/
def absorb (n : Nat) (digits : List Char) : Nat × Nat :=
  digits.foldl (fun (n, count) c =>
    if n < significandLimit then (n * 10 + digitValue c, count + 1) else (n, count)) (n, 0)

/-- Reads the exponent of a number, which must end the text but for spaces. -/
def exponent? (cs : List Char) : Option Int :=
  match cs with
  | [] => some 0
  | c :: rest =>
    if c == 'e' || c == 'E' then
      let (negative, rest) := match rest with
        | '-' :: rest => (true, rest)
        | '+' :: rest => (false, rest)
        | _ => (false, rest)
      let digits := rest.takeWhile Char.isDigit
      if digits.isEmpty || !(skipSpace (rest.dropWhile Char.isDigit)).isEmpty then none
      else some (if negative then -(numberOf digits : Int) else numberOf digits)
    else if (skipSpace cs).isEmpty then some 0
    else none

/-- The decimal that is a whole text. -/
def decimal? (cs : List Char) : Option Decimal := do
  let cs := skipSpace cs
  let (negative, cs) := match cs with
    | '-' :: rest => (true, rest)
    | '+' :: rest => (false, rest)
    | _ => (false, cs)
  let whole := cs.takeWhile Char.isDigit
  let cs := cs.dropWhile Char.isDigit
  let (fraction, cs) := match cs with
    | '.' :: rest => (rest.takeWhile Char.isDigit, rest.dropWhile Char.isDigit)
    | _ => ([], cs)
  if whole.isEmpty && fraction.isEmpty then none
  else
    let exponent ← exponent? cs
    let (n, wholeCount) := absorb 0 whole
    let (n, fractionCount) := absorb n fraction
    some ⟨negative, n, exponent + (whole.length - wholeCount : Nat) - fractionCount⟩

/-- Exponents beyond this make any number that is not zero too great, or too small to count. -/
def exponentLimit : Nat := 400

/-- The floating-point number nearest to a decimal without its sign, if it is not too great. -/
def Decimal.magnitude? (d : Decimal) : Option Magnitude :=
  if d.n == 0 || d.exponent < -exponentLimit then some Magnitude.zero
  else if exponentLimit < d.exponent then none
  else Magnitude.ofRatio (d.n * Nat.pow 10 d.exponent.toNat) (Nat.pow 10 (-d.exponent).toNat)

/-- The number of milliseconds in a day. -/
def millisecondsInDay : Nat := 86400000

/-- The first number of milliseconds that is too great: the year 10000 begins there. -/
def millisecondLimit : Nat := 464269060800000

/-- Whether a number of days lies before the year 10000. -/
def daysInRange (days : Magnitude) : Bool :=
  let (a, b) := days.ratio
  2 * a < (2 * 5373484 + 1) * b

/-- A number of days as milliseconds: the product and the sum that rounds it to the nearest are
floating-point numbers, of which the whole part is taken. -/
def milliseconds? (days : Magnitude) : Option Nat := do
  let (a, b) := days.ratio
  let (a, b) := (← Magnitude.ofRatio (a * millisecondsInDay) b).ratio
  let (a, b) := (← Magnitude.ofRatio (2 * a + b) (2 * b)).ratio
  some (a / b)

/-- The day that a number of days names: they are counted from noon of day zero on. -/
def numbered? (cs : List Char) : Option Int := do
  let d ← decimal? cs
  let days ← d.magnitude?
  if (d.negative && !days.isZero) || !daysInRange days then none
  else
    let milliseconds ← milliseconds? days
    if millisecondLimit ≤ milliseconds then none
    else some ((milliseconds + millisecondsInDay / 2) / millisecondsInDay : Nat)

/-! ### Texts -/

/-- The words for the present day, in small letters. -/
def presentWords : List (List Char) := ["now".toList, "subsec".toList, "subsecond".toList]

/-- Whether characters are a word for the present day, in letters of either case. -/
def isPresent (cs : List Char) : Bool := presentWords.contains (cs.map Char.toLower)

/-- The day that characters name when it is `today`. -/
def day? (today : Int) (cs : List Char) : Option Int :=
  ((dated? cs).or (undated? cs)).or (if isPresent cs then some today else numbered? cs)

/-- The characters of a text, which ends at its first NUL. -/
def charactersOf (text : String) : List Char := text.toList.takeWhile (· != '\x00')

end TimeValue

/-- Whether a text is a word for the present day. -/
def namesPresent (text : String) : Bool := TimeValue.isPresent (TimeValue.charactersOf text)

/-- The day that a text names, if it names one, when it is `today`. -/
def dayOf? (today : Int) (text : String) : Option Int :=
  TimeValue.day? today (TimeValue.charactersOf text)

/-- **Only the words for the present day depend on it.** -/
theorem dayOf?_eq_of_not_namesPresent {text : String} (h : namesPresent text = false)
    (today today' : Int) : dayOf? today text = dayOf? today' text := by
  have hword : TimeValue.isPresent (TimeValue.charactersOf text) = false := h
  simp only [dayOf?, TimeValue.day?, hword, Bool.false_eq_true, if_false]

example : dayOf? 0 "2024-02-30" = dayOf? 0 "2024-03-01" := by decide +kernel
example : dayOf? 0 "2024-01-05 23:30:00.5-01:00" = dayOf? 0 "2024-01-06" := by decide +kernel
example : dayOf? 0 "2024-01-05T24:00" = dayOf? 0 "2024-01-05" := by decide +kernel
example : dayOf? 0 "12:00" = dayOf? 0 "2451545.2" := by decide +kernel
example : dayOf? 0 "2451545.49999999421" = dayOf? 0 "2000-01-02" := by decide +kernel
example : dayOf? 0 "2024-1-05" = none := by decide +kernel
example : dayOf? 2460311 "Now\x00!" = dayOf? 0 "2024-01-01" := by decide +kernel

end ContactBook.Calendar
