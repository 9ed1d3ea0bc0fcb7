/-
**Truth with a third value.**

A comparison with something that is missing is neither true nor false.  `unknown` goes through
conjunction and disjunction as far as the other operands leave the matter open.

Main definitions:

* `ContactBook.Truth` — the three values;
* `ContactBook.Truth.and`, `or`, `all`, `any` — conjunction and disjunction.
-/

set_option autoImplicit false

namespace ContactBook

/-- True, false, or neither. -/
inductive Truth where
  | yes
  | no
  | unknown
  deriving DecidableEq, Repr

namespace Truth

/-- The truth value of something that is decided. -/
def ofBool : Bool → Truth
  | true => yes
  | false => no

/-- Conjunction: `no` decides it. -/
def and : Truth → Truth → Truth
  | no, _ | _, no => no
  | yes, yes => yes
  | _, _ => unknown

/-- Disjunction: `yes` decides it. -/
def or : Truth → Truth → Truth
  | yes, _ | _, yes => yes
  | no, no => no
  | _, _ => unknown

/-- The conjunction of a list. -/
def all (ts : List Truth) : Truth := ts.foldr and yes

/-- The disjunction of a list. -/
def any (ts : List Truth) : Truth := ts.foldr or no

/-- Whether a truth value is `yes`. -/
def holds (t : Truth) : Bool := t == yes

@[simp] theorem holds_ofBool (b : Bool) : (ofBool b).holds = b := by cases b <;> rfl

@[simp] theorem holds_and (a b : Truth) : (a.and b).holds = (a.holds && b.holds) := by
  cases a <;> cases b <;> rfl

@[simp] theorem holds_or (a b : Truth) : (a.or b).holds = (a.holds || b.holds) := by
  cases a <;> cases b <;> rfl

@[simp] theorem and_yes (a : Truth) : a.and yes = a := by cases a <;> rfl

@[simp] theorem or_no (a : Truth) : a.or no = a := by cases a <;> rfl

theorem and_assoc (a b c : Truth) : (a.and b).and c = a.and (b.and c) := by
  cases a <;> cases b <;> cases c <;> rfl

theorem or_assoc (a b c : Truth) : (a.or b).or c = a.or (b.or c) := by
  cases a <;> cases b <;> cases c <;> rfl

/-- A conjunction holds when all its parts do. -/
theorem holds_all (ts : List Truth) : (all ts).holds = ts.all holds := by
  induction ts with
  | nil => rfl
  | cons t ts ih => simp [all, List.foldr] at ih ⊢; rw [ih]

/-- A disjunction holds when some part does. -/
theorem holds_any (ts : List Truth) : (any ts).holds = ts.any holds := by
  induction ts with
  | nil => rfl
  | cons t ts ih => simp [any, List.foldr] at ih ⊢; rw [ih]

end Truth

end ContactBook
