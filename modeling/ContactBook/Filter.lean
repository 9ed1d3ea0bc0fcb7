/-
**Filters.**

A filter is a list of conditions joined by one connective.  A condition compares a field, given by
its name, to a value by one of four operators.  Filters are made of text alone: whatever kind of
value a request wrote has become text before it gets here.

Main definitions:

* `ContactBook.Operator`, `ContactBook.Condition`, `ContactBook.Connective`,
  `ContactBook.Filter` — the parts of a filter;
* `ContactBook.Condition.bound` — the text that a condition compares with: the value itself for
  equality, a pattern that holds the value literally for the other operators.
-/

import ContactBook.Text.Pattern

set_option autoImplicit false

namespace ContactBook

/-- How a field is compared to a value. -/
inductive Operator where
  | equals
  | contains
  | startsWith
  | endsWith
  deriving DecidableEq, Repr

namespace Operator

/-- The name of an operator. -/
def name : Operator → String
  | equals => "equals"
  | contains => "contains"
  | startsWith => "startsWith"
  | endsWith => "endsWith"

/-- All operators. -/
def all : List Operator := [equals, contains, startsWith, endsWith]

/-- The operator of a name. -/
def named? (name : String) : Option Operator := all.find? fun o => o.name == name

/-- An operator that is found has the name that was looked for. -/
theorem name_of_named? {name : String} {o : Operator} (h : named? name = some o) :
    o.name = name := by
  have := List.find?_some h
  simpa using this

/-- What a value is compared with: equality takes it as it is, the other operators make it a
pattern. -/
def bound (value : String) : Operator → String
  | equals => value
  | contains => Text.Pattern.containing value
  | startsWith => Text.Pattern.startingWith value
  | endsWith => Text.Pattern.endingWith value

end Operator

/-- A field compared to a value. -/
structure Condition where
  field : String
  operator : Operator
  value : String
  deriving DecidableEq, Repr

/-- The text that a condition compares with. -/
def Condition.bound (c : Condition) : String := c.operator.bound c.value

/-- Whether all conditions have to hold, or any. -/
inductive Connective where
  | all
  | any
  deriving DecidableEq, Repr

/-- The word for a connective. -/
def Connective.keyword : Connective → String
  | .all => "AND"
  | .any => "OR"

instance : Inhabited Connective := ⟨.all⟩

/-- Conditions and how they are joined. -/
structure Filter where
  conditions : List Condition
  connective : Connective
  deriving DecidableEq, Repr

/-- Whether a filter has no conditions. -/
def Filter.isEmpty (f : Filter) : Bool := f.conditions.isEmpty

example : Operator.named? "startsWith" = some .startsWith := by decide +kernel
example : (Condition.mk "city" .contains "50%").bound = "%50\\%%" := by decide +kernel

end ContactBook
