/-
**Sets of characters as ranges.**

Properties of characters are given by tables: the code points that have the property, as ranges
from the first to the last, in ascending order.

Main definition:

* `ContactBook.Text.inRanges` — whether a number lies in one of some ranges.
-/

set_option autoImplicit false

namespace ContactBook.Text

/-- Whether a range of the list, which is in ascending order, holds `n`. -/
def inRanges (n : Nat) : List (Nat × Nat) → Bool
  | [] => false
  | (first, last) :: rest => first ≤ n && (n ≤ last || inRanges n rest)

example : inRanges 5 [(1, 3), (5, 9)] = true := by decide
example : inRanges 4 [(1, 3), (5, 9)] = false := by decide

end ContactBook.Text
