/-
**Binary floating-point numbers of 64 bits.**

A finite number is a sign and a magnitude `significand * 2 ^ exponent`, with at most 53 bits in the
significand and no exponent below -1074.  Every operation computes exactly, as a quotient of natural
numbers, and rounds once: to the nearest representable magnitude, of two equally near ones to that
with the even significand.  A magnitude too great for the format is no number.

Main definitions:

* `ContactBook.Decimal.Magnitude`, `ContactBook.Decimal.Binary64` — the numbers;
* `ContactBook.Decimal.Magnitude.ofRatio` — rounding a quotient;
* `ContactBook.Decimal.Magnitude.ofScaled` — reading a whole number times a power of ten.
-/

set_option autoImplicit false

namespace ContactBook.Decimal

/-- The magnitude `significand * 2 ^ exponent` of a finite number. -/
structure Magnitude where
  significand : Nat
  exponent : Int
  deriving DecidableEq, Repr

/-- A finite number: a magnitude and whether it is negative.  Zero has both signs. -/
structure Binary64 where
  negative : Bool
  magnitude : Magnitude
  deriving DecidableEq, Repr

namespace Magnitude

/-- The least exponent of the format. -/
def leastExponent : Int := -1074

/-- The greatest exponent of the format. -/
def greatestExponent : Int := 971

/-- The magnitude of zero. -/
def zero : Magnitude := ⟨0, leastExponent⟩

/-- Whether a magnitude is zero. -/
def isZero (x : Magnitude) : Bool := x.significand == 0

/-- `num / den` to the nearest whole number, a half to the even neighbour. -/
def roundDiv (num den : Nat) : Nat :=
  let q := num / den
  let r := num % den
  if den < 2 * r || (2 * r == den && q % 2 == 1) then q + 1 else q

/-- The quotient `num / den` divided by `2 ^ e`, as a fraction. -/
def scaledBy (num den : Nat) (e : Int) : Nat × Nat :=
  if e < 0 then (num * Nat.pow 2 (-e).toNat, den) else (num, den * Nat.pow 2 e.toNat)

/-- The magnitude nearest to `num / den`, if the format reaches that far. -/
def ofRatio (num den : Nat) : Option Magnitude :=
  if num == 0 then some zero
  else
    -- `num / den` lies between `2 ^ (lead - 1)` and `2 ^ (lead + 1)`
    let lead : Int := (num.log2 : Int) - (den.log2 : Int)
    let low := max leastExponent (lead - 53)
    let (a, b) := scaledBy num den low
    let e := if Nat.pow 2 53 * b ≤ a then low + 1 else low
    let (a, b) := scaledBy num den e
    let s := roundDiv a b
    let x : Magnitude := if s == Nat.pow 2 53 then ⟨Nat.pow 2 52, e + 1⟩ else ⟨s, e⟩
    if greatestExponent < x.exponent then none else some x

/-- The magnitude nearest to a whole number. -/
def ofNat (n : Nat) : Option Magnitude := ofRatio n 1

/-- A magnitude as a fraction of natural numbers. -/
def ratio (x : Magnitude) : Nat × Nat :=
  if x.exponent < 0 then (x.significand, Nat.pow 2 (-x.exponent).toNat)
  else (x.significand * Nat.pow 2 x.exponent.toNat, 1)

/-- The rounded product. -/
def mul (x y : Magnitude) : Option Magnitude :=
  let (a, b) := x.ratio
  let (c, d) := y.ratio
  ofRatio (a * c) (b * d)

/-- The rounded quotient. -/
def div (x y : Magnitude) : Option Magnitude :=
  let (a, b) := x.ratio
  let (c, d) := y.ratio
  ofRatio (a * d) (b * c)

/-- The greatest power of ten that the format holds. -/
def greatestPower : Nat := 308

/-- The number nearest to `10 ^ k`, for the powers that the format holds. -/
def powerOfTen (k : Nat) : Option Magnitude := ofNat (Nat.pow 10 k)

/-- `n * 10 ^ e`, computed as a reader of decimals does that rounds the whole number first and
then multiplies or divides by one rounded power of ten; powers below the format are taken in two
divisions.  The result can miss the nearest number by the last bit. -/
def ofScaled (n : Nat) (e : Int) : Option Magnitude := do
  let x ← ofNat n
  if x.isZero then return zero
  let k := e.natAbs
  if 0 ≤ e then
    if greatestPower < k then none else x.mul (← powerOfTen k)
  else if k ≤ greatestPower then x.div (← powerOfTen k)
  else
    let y ← x.div (← powerOfTen greatestPower)
    if k ≤ 2 * greatestPower then y.div (← powerOfTen (k - greatestPower)) else some zero

example : ofScaled 1 0 = some ⟨2 ^ 52, -52⟩ := by decide +kernel
example : ofScaled 9007199254740993 0 = some ⟨2 ^ 52, 1⟩ := by decide +kernel
example : ofScaled 1 309 = none := by decide +kernel
example : ofScaled 5 (-324) = some ⟨1, -1074⟩ := by decide +kernel

end Magnitude

namespace Binary64

/-- Negative zero. -/
def negativeZero : Binary64 := ⟨true, Magnitude.zero⟩

/-- Whether a number is zero of either sign. -/
def isZero (x : Binary64) : Bool := x.magnitude.isZero

end Binary64

end ContactBook.Decimal
