/-
**The fewest decimal digits that read back.**

The reals that round to a given finite number form an interval: it reaches halfway to each
neighbour, and includes its two ends exactly when the significand is even.  A decimal with `n`
digits lies on a grid of powers of ten; the value has one neighbour below and one above on that
grid.  `Magnitude.shortest` takes the coarsest grid on which one of the two lies in the interval,
and of two such neighbours the nearer.  Printers differ in which one they take if both are equally
near, so that is left to the caller.

Main definitions:

* `ContactBook.Decimal.Tie` — the rule for two equally near decimals;
* `ContactBook.Decimal.Digits` — significant digits and the place of the first;
* `ContactBook.Decimal.Magnitude.shortest` — the digits of a magnitude that is not zero;
* `ContactBook.Decimal.Digits.positional` — those digits written out with a point.
-/

import ContactBook.Decimal.Binary64

set_option autoImplicit false

namespace ContactBook.Decimal

/-- The decimal `d.ddd * 10 ^ place`, given by its digits. -/
structure Digits where
  digits : List Char
  place : Int
  deriving DecidableEq, Repr

/-- Which of two equally near decimals is taken: that with the even last digit, or the greater. -/
inductive Tie where
  | even
  | up
  deriving DecidableEq, Repr

namespace Magnitude

/-- Whether the fraction `a / b` rounds to the magnitude.  The gap below is half as wide at the
first number of a new exponent. -/
def readsBack (x : Magnitude) (a b : Nat) : Bool :=
  let quarter : Magnitude := ⟨1, x.exponent - 2⟩
  let (u, v) := quarter.ratio
  let narrow := x.significand == Nat.pow 2 52 && leastExponent < x.exponent
  let low := 4 * x.significand - (if narrow then 1 else 2)
  let high := 4 * x.significand + 2
  if x.significand % 2 == 0 then low * u * b ≤ a * v && a * v ≤ high * u * b
  else low * u * b < a * v && a * v < high * u * b

/-- The least `k` from `start` on with `den ≤ num * 10 ^ k`, looked for in `fuel` steps. -/
def leastShift (num den : Nat) : Nat → Nat → Nat
  | 0, k => k
  | fuel + 1, k => if den ≤ num * Nat.pow 10 k then k else leastShift num den fuel (k + 1)

/-- The place of the first significant digit of a magnitude that is not zero. -/
def firstPlace (x : Magnitude) : Int :=
  let (a, b) := x.ratio
  if b ≤ a then ((Nat.repr (a / b)).length : Int) - 1 else -(leastShift a b 400 1 : Int)

/-- The neighbour of the value on the grid of `10 ^ grid` that reads back and is nearest. -/
def onGrid (tie : Tie) (x : Magnitude) (grid : Int) : Option Nat :=
  let (a, b) := x.ratio
  let up := Nat.pow 10 (-grid).toNat
  let down := Nat.pow 10 grid.toNat
  -- the value is `num / den` grid units
  let num := a * up
  let den := b * down
  let below := num / den
  let fits (n : Nat) : Bool := x.readsBack (n * down) up
  let twice := 2 * (num - below * den)
  let takesAbove := den < twice || (den == twice && (tie == .up || below % 2 == 1))
  if fits below then if fits (below + 1) && takesAbove then some (below + 1) else some below
  else if fits (below + 1) then some (below + 1)
  else none

/-- The whole number with its trailing zeros cut off, as digits. -/
def significantDigits (n : Nat) : List Char :=
  ((Nat.repr n).toList.reverse.dropWhile (· == '0')).reverse

/-- The first of the grids with `n`, `n + 1`, … digits that holds a decimal which reads back. -/
def shortestFrom (tie : Tie) (x : Magnitude) (first : Int) : Nat → Nat → Digits
  | 0, _ => ⟨['0'], 0⟩
  | fuel + 1, n =>
    match x.onGrid tie (first - (n - 1)) with
    | some d =>
      -- a carry into a new place leaves a power of ten, one digit longer
      ⟨significantDigits d, first - (n - 1) + ((Nat.repr d).length - 1 : Nat)⟩
    | none => shortestFrom tie x first fuel (n + 1)

/-- The fewest digits that read back, for a magnitude that is not zero: seventeen always do. -/
def shortest (tie : Tie) (x : Magnitude) : Digits := x.shortestFrom tie x.firstPlace 17 1

end Magnitude

namespace Digits

/-- The digits written out with a point, if a fraction is left. -/
def positional (d : Digits) : List Char :=
  if d.place < 0 then
    ['0', '.'] ++ List.replicate (d.place.natAbs - 1) '0' ++ d.digits
  else
    let whole := d.place.toNat + 1
    if d.digits.length ≤ whole then d.digits ++ List.replicate (whole - d.digits.length) '0'
    else d.digits.take whole ++ '.' :: d.digits.drop whole

end Digits

example : (Magnitude.ofScaled 1 (-1)).map (Magnitude.shortest .even) = some ⟨['1'], -1⟩ := by
  decide +kernel
example : (Magnitude.ofScaled 5 (-324)).map (Magnitude.shortest .even) = some ⟨['5'], -324⟩ := by
  decide +kernel
example : (Magnitude.ofScaled 1 23).map (Magnitude.shortest .even) = some ⟨['1'], 23⟩ := by
  decide +kernel
example : (Magnitude.ofScaled 30000000000000004 (-17)).map (Magnitude.shortest .even) =
    some ⟨"30000000000000004".toList, -1⟩ := by decide +kernel
example : (Magnitude.ofRatio 107115040048002825 100).map (Magnitude.shortest .even) =
    some ⟨"10711504004800282".toList, 15⟩ := by decide +kernel
example : (Magnitude.ofRatio 107115040048002825 100).map (Magnitude.shortest .up) =
    some ⟨"10711504004800283".toList, 15⟩ := by decide +kernel

end ContactBook.Decimal
