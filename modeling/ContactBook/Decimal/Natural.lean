/-
**Natural numbers in decimal digits.**

Dates and times write numbers with a fixed number of digits.

Main definitions:

* `ContactBook.Decimal.digitValue`, `ContactBook.Decimal.numberOf` — the value of digits;
* `ContactBook.Decimal.padded` — a number with at least so many digits;
* `ContactBook.Decimal.fixed?` — reading a number of exactly so many digits.
-/

set_option autoImplicit false

namespace ContactBook.Decimal

/-- The value of a decimal digit. -/
def digitValue (c : Char) : Nat := c.toNat - 48

/-- The number that digits write. -/
def numberOf (cs : List Char) : Nat := cs.foldl (fun n c => n * 10 + digitValue c) 0

/-- The digits of a number, with zeros in front up to a width. -/
def padded (width n : Nat) : List Char :=
  let digits := (Nat.repr n).toList
  List.replicate (width - digits.length) '0' ++ digits

/-- Reads a number of exactly `width` digits between `least` and `greatest`. -/
def fixed? (width least greatest : Nat) (cs : List Char) : Option (Nat × List Char) :=
  let digits := cs.take width
  let n := numberOf digits
  if digits.length == width && digits.all Char.isDigit && least ≤ n && n ≤ greatest then
    some (n, cs.drop width)
  else none

example : padded 2 7 = ['0', '7'] := by decide +kernel
example : fixed? 2 1 12 "07x".toList = some (7, ['x']) := by decide +kernel
example : fixed? 2 1 12 "13".toList = none := by decide +kernel

end ContactBook.Decimal
