/-
**Lists in batches.**

A statement takes only so many values, so long lists are worked off in batches: all of them have the
full size but the last, which has what is left.

Main definition:

* `ContactBook.batches` — a list in batches.
-/

set_option autoImplicit false

namespace ContactBook

/-- The first `count` batches of a list at most. -/
def batchesUpTo {α : Type} (size : Nat) : Nat → List α → List (List α)
  | 0, _ => []
  | _ + 1, [] => []
  | count + 1, a :: as =>
    (a :: as).take size :: batchesUpTo size count ((a :: as).drop size)

/-- A list in batches of a positive size. -/
def batches {α : Type} (size : Nat) (as : List α) : List (List α) := batchesUpTo size as.length as

example : batches 2 [1, 2, 3, 4, 5] = [[1, 2], [3, 4], [5]] := by decide
example : batches 2 [1, 2, 3, 4] = [[1, 2], [3, 4]] := by decide
example : batches 2 ([] : List Nat) = [] := by decide

end ContactBook
