/-
**The words of a JSON text.**

Blanks, literal words, numbers and strings, each read from the front of the characters that are
left.  A reader returns what it read and the rest, or the first break of the grammar.  Strings are
read in at most `size` steps; the number of characters of the whole text is always enough.

Whole numbers are exact within 64 bits, signed or unsigned.  Any other number is read as a decimal
that keeps as many leading digits as 64 bits hold and scales them by a power of ten.

Main definitions:

* `ContactBook.Json.Numeral` — a number as it is written, and `Numeral.number?`, its value;
* `ContactBook.Json.readString` — the characters of a string, after its opening quote;
* `ContactBook.Json.opening` — the scalar, or the kind of bracket, that a value begins with.
-/

import ContactBook.Decimal.Natural
import ContactBook.Json.Error

set_option autoImplicit false

namespace ContactBook.Json

open ContactBook.Decimal

/-- The characters that may stand between the words of a text. -/
def isSpace (c : Char) : Bool := c == ' ' || c == '\n' || c == '\t' || c == '\r'

/-- The rest of a text from its next word on. -/
def skipSpace (cs : List Char) : List Char := cs.dropWhile isSpace

/-- Reads the given letters. -/
def readWord : List Char → List Char → Except SyntaxFault (List Char)
  | [], cs => .ok cs
  | _ :: _, [] => .error .unfinishedValue
  | w :: ws, c :: cs => if c == w then readWord ws cs else .error .misspelledWord

/-! ### Numbers -/

/-- An exponent as it is written. -/
structure Exponent where
  negative : Bool
  digits : List Char

/-- A number as it is written, without its sign. -/
structure Numeral where
  whole : List Char
  fraction : List Char
  exponent : Option Exponent

/-- Reads the digits that must stand next; `unfinished` is the fault of a text that ends here. -/
def readDigits (unfinished : SyntaxFault) (cs : List Char) :
    Except SyntaxFault (List Char × List Char) :=
  match cs with
  | [] => .error unfinished
  | c :: _ =>
    if c.isDigit then .ok (cs.takeWhile Char.isDigit, cs.dropWhile Char.isDigit)
    else .error .invalidNumber

/-- Reads the part of a number before the point: a zero stands alone. -/
def readWhole (unfinished : SyntaxFault) (cs : List Char) :
    Except SyntaxFault (List Char × List Char) :=
  match cs with
  | '0' :: c :: rest => if c.isDigit then .error .invalidNumber else .ok (['0'], c :: rest)
  | _ => readDigits unfinished cs

/-- Reads the part of a number after the point, if there is a point. -/
def readFraction (unfinished : SyntaxFault) (cs : List Char) :
    Except SyntaxFault (List Char × List Char) :=
  match cs with
  | '.' :: rest => readDigits unfinished rest
  | _ => .ok ([], cs)

/-- Reads the exponent of a number, if there is one. -/
def readExponent (unfinished : SyntaxFault) (cs : List Char) :
    Except SyntaxFault (Option Exponent × List Char) :=
  match cs with
  | c :: rest =>
    if c == 'e' || c == 'E' then
      let (negative, rest) := match rest with
        | '+' :: rest => (false, rest)
        | '-' :: rest => (true, rest)
        | _ => (false, rest)
      (readDigits unfinished rest).map fun (digits, rest) => (some ⟨negative, digits⟩, rest)
    else .ok (none, cs)
  | [] => .ok (none, [])

/-- Reads a number without its sign. -/
def readNumeral (unfinished : SyntaxFault) (cs : List Char) :
    Except SyntaxFault (Numeral × List Char) := do
  let (whole, cs) ← readWhole unfinished cs
  let (fraction, cs) ← readFraction unfinished cs
  let (exponent, cs) ← readExponent unfinished cs
  return (⟨whole, fraction, exponent⟩, cs)

/-- Appends digits to a whole number as long as it fits 64 bits; what is left does not. -/
def absorb : Nat → List Char → Nat × List Char
  | n, [] => (n, [])
  | n, c :: cs =>
    let m := n * 10 + digitValue c
    if m < Nat.pow 2 64 then absorb m cs else (n, c :: cs)

/-- The power of ten that an exponent stands for. -/
def Exponent.value (e : Exponent) : Int :=
  if e.negative then -(numberOf e.digits : Int) else numberOf e.digits

namespace Numeral

/-- The number as a decimal: its leading digits times a power of ten. -/
def decimal (x : Numeral) : Nat × Int :=
  let (n, dropped) := absorb 0 x.whole
  let (n, left) := absorb n x.fraction
  let shift : Int := (dropped.length : Int) - ((x.fraction.length : Int) - left.length)
  (n, shift + (x.exponent.map Exponent.value).getD 0)

/-- The value of a numeral that is written without point and exponent and fits 64 bits. -/
def natural? (x : Numeral) : Option Nat :=
  match x.fraction, x.exponent, absorb 0 x.whole with
  | [], none, (n, []) => some n
  | _, _, _ => none

/-- The value of a numeral under a sign, if it is not too great. -/
def number? (negative : Bool) (x : Numeral) : Option Number :=
  match x.natural? with
  | some n =>
    if !negative then some (.integer n)
    else if n == 0 then some (.double Binary64.negativeZero)
    else if n ≤ Nat.pow 2 63 then some (.integer (-n))
    else (Magnitude.ofNat n).map fun m => .double ⟨true, m⟩
  | none =>
    let (n, e) := x.decimal
    (Magnitude.ofScaled n e).map fun m => .double ⟨negative, m⟩

end Numeral

/-- Reads a number after its sign. -/
def readNumber (negative : Bool) (cs : List Char) : Except SyntaxFault (Number × List Char) := do
  let (numeral, cs) ← readNumeral .unfinishedValue cs
  match numeral.number? negative with
  | some n => return (n, cs)
  | none => .error .numberOutOfRange

/-! ### Strings -/

/-- The value of a hexadecimal digit. -/
def hexValue? (c : Char) : Option Nat :=
  if c.isDigit then some (c.toNat - 48)
  else if 'a' ≤ c && c ≤ 'f' then some (c.toNat - 87)
  else if 'A' ≤ c && c ≤ 'F' then some (c.toNat - 55)
  else none

/-- Reads four hexadecimal digits.  A text with fewer than four bytes left ends too early. -/
def readHex (cs : List Char) : Except SyntaxFault (Nat × List Char) :=
  match cs with
  | a :: b :: c :: d :: rest =>
    match hexValue? a, hexValue? b, hexValue? c, hexValue? d with
    | some a, some b, some c, some d => .ok (((a * 16 + b) * 16 + c) * 16 + d, rest)
    | _, _, _, _ => .error .invalidEscape
  | _ =>
    if 4 ≤ cs.foldl (fun n c => n + c.utf8Size) 0 then .error .invalidEscape
    else .error .unfinishedString

/-- Whether a number is the second half of a pair that stands for one character. -/
def isLowSurrogate (n : Nat) : Bool := 0xDC00 ≤ n && n ≤ 0xDFFF

/-- Whether a number is the first half of a pair that stands for one character. -/
def isHighSurrogate (n : Nat) : Bool := 0xD800 ≤ n && n ≤ 0xDBFF

/-- Reads the second half of a pair whose first half is `high`. -/
def readLowSurrogate (high : Nat) (cs : List Char) : Except SyntaxFault (Char × List Char) :=
  match cs with
  | [] => .error .unfinishedString
  | '\\' :: rest =>
    match rest with
    | [] => .error .unfinishedString
    | 'u' :: rest => do
      let (low, rest) ← readHex rest
      if isLowSurrogate low then
        return (Char.ofNat ((high - 0xD800) * 0x400 + (low - 0xDC00) + 0x10000), rest)
      else .error .loneLowSurrogate
    | _ => .error .loneHighSurrogate
  | _ => .error .loneHighSurrogate

/-- The character that a letter stands for after a backslash. -/
def shortEscape? (c : Char) : Option Char :=
  if c == '"' || c == '\\' || c == '/' then some c
  else if c == 'n' then some '\n'
  else if c == 'r' then some '\r'
  else if c == 't' then some '\t'
  else if c == 'b' then some (Char.ofNat 0x08)
  else if c == 'f' then some (Char.ofNat 0x0C)
  else none

/-- Reads an escaped character after its backslash. -/
def readEscape (cs : List Char) : Except SyntaxFault (Char × List Char) :=
  match cs with
  | [] => .error .unfinishedString
  | c :: rest =>
    if c == 'u' then do
      let (n, rest) ← readHex rest
      if isLowSurrogate n then .error .loneLowSurrogate
      else if isHighSurrogate n then readLowSurrogate n rest
      else return (Char.ofNat n, rest)
    else
      match shortEscape? c with
      | some d => .ok (d, rest)
      | none => .error .invalidEscape

/-- Reads on to the closing quote; `acc` holds the characters read so far, the last one first. -/
def readStringFrom : Nat → List Char → List Char → Except SyntaxFault (List Char × List Char)
  | 0, _, _ => .error .unfinishedString
  | _ + 1, _, [] => .error .unfinishedString
  | size + 1, acc, c :: rest =>
    if c == '"' then .ok (acc.reverse, rest)
    else if c == '\\' then
      match readEscape rest with
      | .ok (d, rest) => readStringFrom size (d :: acc) rest
      | .error fault => .error fault
    else if c.toNat < 0x20 then .error .controlCharacter
    else readStringFrom size (c :: acc) rest

/-- Reads a string after its opening quote. -/
def readString (size : Nat) (cs : List Char) : Except SyntaxFault (String × List Char) :=
  (readStringFrom (size + 1) [] cs).map fun (s, rest) => (String.ofList s, rest)

/-! ### How a value begins -/

/-- The beginning of a value: a whole scalar, or an opening bracket. -/
inductive Opening where
  | scalar (value : Value) (rest : List Char)
  | list (rest : List Char)
  | object (rest : List Char)

/-- Reads a scalar or an opening bracket. -/
def opening (size : Nat) (cs : List Char) : Except SyntaxFault Opening :=
  match skipSpace cs with
  | [] => .error .unfinishedValue
  | c :: rest =>
    if c == 'n' then (readWord ['u', 'l', 'l'] rest).map (.scalar .null)
    else if c == 't' then (readWord ['r', 'u', 'e'] rest).map (.scalar (.bool true))
    else if c == 'f' then (readWord ['a', 'l', 's', 'e'] rest).map (.scalar (.bool false))
    else if c == '-' then (readNumber true rest).map fun (n, rest) => .scalar (.number n) rest
    else if c.isDigit then
      (readNumber false (c :: rest)).map fun (n, rest) => .scalar (.number n) rest
    else if c == '"' then (readString size rest).map fun (s, rest) => .scalar (.string s) rest
    else if c == '[' then .ok (.list rest)
    else if c == '{' then .ok (.object rest)
    else .error .expectedValue

end ContactBook.Json
