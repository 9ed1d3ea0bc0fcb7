/-
**Numbers, dates and switches in TOML.**

A value that is neither a text nor a list nor a table is a word.  Digits may be grouped by single
underscores.  Whole numbers may be written in base two, eight or sixteen; other numbers have a point
or an exponent.  Dates and times are taken as text, in one normal form.

The form of a word is checked when it is read, but a number may still have no value: a whole number
has to fit 64 bits with a sign, and other numbers must not be too great.  A decimal number that has
an underscore after its first digits counts as a whole number whatever follows, and it is only the
value that fails.

Main definitions:

* `ContactBook.Settings.Toml.Converted` — a value, or why a number has none;
* `ContactBook.Settings.Toml.scalar?` — reading a word.
-/

import ContactBook.Calendar.Rfc3339
import ContactBook.Settings.Toml.Text
import ContactBook.Settings.Value

set_option autoImplicit false

namespace ContactBook.Settings.Toml

open Decimal

/-- A value, or why a number has none. -/
abbrev Converted := Except NumberFault Value

/-! ### Digits -/

/-- Whether a character is a digit in base sixteen. -/
def isHexDigit (c : Char) : Bool := (Json.hexValue? c).isSome

/-- Whether every underscore stands between two digits; `before` says whether a digit comes just
before the characters. -/
def areGrouped (isDigit : Char → Bool) (before : Bool) : List Char → Bool
  | [] => true
  | c :: rest =>
    if c == '_' then before && rest.head?.any isDigit && areGrouped isDigit false rest
    else areGrouped isDigit (isDigit c) rest

/-- Characters without underscores. -/
def ungroup (cs : List Char) : List Char := cs.filter (· != '_')

/-- A sign and what it stands before. -/
def unsign (cs : List Char) : Bool × List Char :=
  match cs with
  | '-' :: rest => (true, rest)
  | '+' :: rest => (false, rest)
  | _ => (false, cs)

/-! ### Whole numbers -/

/-- The greatest magnitude of a whole number under a sign. -/
def greatestWhole (negative : Bool) : Nat := if negative then Nat.pow 2 63 else Nat.pow 2 63 - 1

/-- The whole number that characters write in a base, after those whose magnitude is `n`.  The first
character that is no digit, or that makes the number too great, is what is wrong. -/
def wholeFrom (base : Nat) (negative : Bool) (n : Nat) : List Char → Converted
  | [] => .ok (.integer (if negative then -(n : Int) else n))
  | c :: rest =>
    match Json.hexValue? c with
    | none => .error .invalidDigit
    | some d =>
      let m := n * base + d
      if base ≤ d then .error .invalidDigit
      else if greatestWhole negative < m then .error (if negative then .tooSmall else .tooLarge)
      else wholeFrom base negative m rest

/-- The whole number that characters write in a base. -/
def whole (base : Nat) (negative : Bool) (cs : List Char) : Converted :=
  if cs.isEmpty then .error .noDigits else wholeFrom base negative 0 cs

/-- A whole number in a base other than ten, after the letter that names the base. -/
def inBase? (base : Nat) (cs : List Char) : Option Converted :=
  if (ungroup cs).all (fun c => (Json.hexValue? c).any (· < base)) &&
      areGrouped isHexDigit false cs then
    some (whole base false (ungroup cs))
  else none

/-- A whole number in base ten, after its sign. -/
def decimal? (negative : Bool) (cs : List Char) : Option Converted :=
  if (cs.head? == some '0' && 1 < cs.length) || !areGrouped isHexDigit false cs then none
  else some (whole 10 negative (ungroup cs))

/-! ### Other numbers -/

/-- Powers of ten beyond this make any number too great. -/
def greatestPower : Nat := 400

/-- The magnitude of digits times a power of ten, if it is not too great. -/
def magnitude? (digits : List Char) (power : Int) : Option Magnitude :=
  let n := numberOf digits
  if n == 0 || power < -(greatestPower + digits.length : Int) then some Magnitude.zero
  else if greatestPower < power then none
  else Magnitude.ofRatio (n * Nat.pow 10 power.toNat) (Nat.pow 10 (-power).toNat)

/-- Reads digits and underscores, of which at least one is a digit.  A needless zero at the start is
allowed only if `zeroFirst`. -/
def digits? (zeroFirst : Bool) (cs : List Char) : Option (List Char × List Char) :=
  let isPart (c : Char) : Bool := c.isDigit || c == '_'
  let digits := ungroup (cs.takeWhile isPart)
  if digits.isEmpty || (!zeroFirst && 1 < digits.length && cs.head? == some '0') then none
  else some (digits, cs.dropWhile isPart)

/-- The value of the exponent that characters are; without one it is zero. -/
def exponent? (cs : List Char) : Option Int :=
  match cs with
  | [] => some 0
  | c :: rest => do
    let (negative, rest) := unsign rest
    let (digits, rest) ← digits? true rest
    let n : Int := numberOf digits
    if (c == 'e' || c == 'E') && rest.isEmpty then some (if negative then -n else n) else none

/-- A number with a point or an exponent, after its sign. -/
def real? (negative : Bool) (cs : List Char) : Option Converted := do
  let (whole, rest) ← digits? false cs
  let (fraction, rest) ← match rest with
    | '.' :: rest => digits? true rest
    | _ => some ([], rest)
  let exponent ← exponent? rest
  if !areGrouped Char.isDigit false cs then none
  else
    match magnitude? (whole ++ fraction) (exponent - fraction.length) with
    | some m => some (.ok (.real (.finite ⟨negative, m⟩)))
    | none => some (.error .infinite)

/-! ### Dates -/

/-- The text of a fraction of a second: nine digits at most, no zeros at the end, but at least one
digit. -/
def fractionText (digits : List Char) : List Char :=
  let kept := ((digits.take 9).reverse.dropWhile (· == '0')).reverse
  '.' :: (if kept.isEmpty then ['0'] else kept)

/-- Reads a fraction of a second, if there is one, and writes it in normal form. -/
def fraction? (cs : List Char) : Option (List Char × List Char) :=
  match cs with
  | '.' :: rest =>
    let digits := rest.takeWhile Char.isDigit
    if digits.isEmpty then none else some (fractionText digits, rest.dropWhile Char.isDigit)
  | _ => some ([], cs)

/-- Reads a date, and writes it in normal form. -/
def date? (cs : List Char) : Option (List Char × List Char) :=
  (Calendar.Instant.date? cs).map fun (d, rest) => (Calendar.Instant.dateChars d, rest)

/-- Reads a time of day, which may lack its seconds, and writes it in normal form. -/
def time? (cs : List Char) : Option (List Char × List Char) := do
  let (hour, cs) ← fixed? 2 0 23 cs
  let (minute, cs) ← fixed? 2 0 59 (← Calendar.sign? [':'] cs)
  let start := padded 2 hour ++ ':' :: padded 2 minute
  match cs with
  | ':' :: rest =>
    let (second, rest) ← fixed? 2 0 60 rest
    let (fraction, rest) ← fraction? rest
    some (start ++ ':' :: (padded 2 second ++ fraction), rest)
  | _ => some (start, cs)

/-- The normal form of a zone, or of none. -/
def zone? (cs : List Char) : Option (List Char) :=
  match cs with
  | [] => some []
  | [c] => if c == 'Z' || c == 'z' then some ['Z'] else none
  | sign :: rest => do
    let (hour, rest) ← fixed? 2 0 23 rest
    let (minute, rest) ← fixed? 2 0 59 (← Calendar.sign? [':'] rest)
    if !rest.isEmpty || (sign != '+' && sign != '-') then none
    else
      let sign := if hour == 0 && minute == 0 then '+' else sign
      some (sign :: (padded 2 hour ++ ':' :: padded 2 minute))

/-- The normal form of a date, of a time, or of both. -/
def moment? (cs : List Char) : Option (List Char) :=
  match date? cs with
  | some (date, []) => some date
  | some (date, rest) => do
    let (time, rest) ← time? (← Calendar.sign? ['T', 't', ' '] rest)
    some (date ++ 'T' :: (time ++ (← zone? rest)))
  | none =>
    match time? cs with
    | some (time, []) => some time
    | _ => none

/-! ### Words -/

/-- Whether a character ends a word. -/
def endsWord (c : Char) : Bool :=
  ['=', ',', '[', ']', '{', '}', ' ', '\t', '#', '\r', '\n'].contains c

/-- Reads a word.  A date goes on past one space if more of a word follows. -/
def word (cs : List Char) : List Char × List Char :=
  let first := cs.takeWhile fun c => !endsWord c
  let rest := cs.dropWhile fun c => !endsWord c
  match date? first, rest with
  | some (_, []), ' ' :: more =>
    let second := more.takeWhile fun c => !endsWord c
    if second.isEmpty then (first, rest)
    else (first ++ ' ' :: second, more.dropWhile fun c => !endsWord c)
  | _, _ => (first, rest)

/-- The value of a word that begins with decimal digits, after its sign; `cs` is the whole word.
What follows the digits decides what it is. -/
def numberOrMoment? (cs : List Char) (negative : Bool) (unsigned : List Char) : Option Converted :=
  if !unsigned.head?.any Char.isDigit then none
  else
    let rest := unsigned.dropWhile Char.isDigit
    match rest with
    | [] => decimal? negative unsigned
    | c :: _ =>
      if c == '-' || c == ':' then (moment? cs).map fun s => .ok (.text (String.ofList s))
      else if rest.contains '.' || rest.contains 'e' || rest.contains 'E' then
        real? negative unsigned
      else if c == '_' then decimal? negative unsigned
      else none

/-- The value of a word. -/
def wordValue? (cs : List Char) : Option Converted :=
  if cs == ['t', 'r', 'u', 'e'] then some (.ok (.switch true))
  else if cs == ['f', 'a', 'l', 's', 'e'] then some (.ok (.switch false))
  else
    let (negative, unsigned) := unsign cs
    if unsigned == ['i', 'n', 'f'] then some (.ok (.real (.infinite negative)))
    else if unsigned == ['n', 'a', 'n'] then some (.ok (.real .notANumber))
    else
      match cs with
      | '0' :: 'x' :: digits => inBase? 16 digits
      | '0' :: 'o' :: digits => inBase? 8 digits
      | '0' :: 'b' :: digits => inBase? 2 digits
      | _ => numberOrMoment? cs negative unsigned

/-- Reads a value that is a word. -/
def scalar? (cs : List Char) : Option (Converted × List Char) :=
  let (w, rest) := word cs
  (wordValue? w).map (·, rest)

example : ((wordValue? "1_000".toList).map fun v => v.toOption.bind Value.toText?) =
    some (some "1000") := by decide +kernel
example : (wordValue? "01".toList).isNone = true := by decide +kernel
example : ((wordValue? "1e2".toList).map fun v => v.toOption.bind Value.toText?) =
    some (some "100") := by decide +kernel
example : whole 10 true "9223372036854775809".toList matches .error .tooSmall := by decide +kernel
example : moment? "1979-05-27 07:32:00.50z".toList = some "1979-05-27T07:32:00.5Z".toList := by
  decide +kernel
example : moment? "1979-05-27t07:32-00:00".toList = some "1979-05-27T07:32+00:00".toList := by
  decide +kernel

end ContactBook.Settings.Toml
