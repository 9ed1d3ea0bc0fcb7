/-
**Admitting filters.**

Before a filter is used each of its conditions is checked, in order, and the first one that is not
admitted fails the filter.  An operator must be known under either policy.  The lenient policy lets
pass whatever else a condition says: a field that is not registered will be passed over later, and
a value of any shape counts as its text.  The strict policy also asks for a registered field and a
plain value.

Main definitions:

* `ContactBook.Policy` — the two policies;
* `ContactBook.Json.Value.plain` — the text that a value counts as;
* `ContactBook.Refusal` — why a condition, or a text, is no filter;
* `ContactBook.Policy.check`, `ContactBook.Policy.checkFilter` — the check.
-/

import ContactBook.Field
import ContactBook.Fault
import ContactBook.Filter.Wire

set_option autoImplicit false

namespace ContactBook

/-! ### Values as text -/

/-- The text that a value counts as: a string is its own text, any other value its JSON text. -/
def Json.Value.plain : Json.Value → String
  | .string s => s
  | v => v.render

/-- Whether a value is a string, a truth value or a number. -/
def Json.Value.isScalar : Json.Value → Bool
  | .string _ | .bool _ | .number _ => true
  | .null | .array _ | .object _ => false

/-- The text that a scalar counts as. -/
def Json.Value.plainScalar? (v : Json.Value) : Option String :=
  if v.isScalar then some v.plain else none

/-! ### The check -/

/-- How strictly filters are checked. -/
inductive Policy where
  | lenient
  | strict
  deriving DecidableEq, Repr

/-- Why something is no filter. -/
inductive Refusal where
  | unknownOperator (name : String)
  | unknownField (name : String)
  | notScalar (field : String)
  | notFilter (failure : Json.Failure)
  deriving DecidableEq, Repr

/-- The wording of a refusal. -/
def Refusal.message : Refusal → String
  | .unknownOperator name => "'" ++ name ++ "' is not a supported operator"
  | .unknownField name => "'" ++ name ++ "' is not a filterable field"
  | .notScalar field => "the value for '" ++ field ++ "' must be a scalar"
  | .notFilter failure => "filters is not a valid filter: " ++ failure.message

/-- A refusal as it is reported. -/
def Refusal.fault (r : Refusal) : Fault := .invalid r.message

/-- The operator of a name, which has to be known. -/
def Operator.require (name : String) : Except Refusal Operator :=
  match named? name with
  | some o => .ok o
  | none => .error (.unknownOperator name)

namespace Policy

/-- Checks a condition.  The strict policy looks at the field, then at the operator, then at the
value. -/
def check (policy : Policy) (c : WireCondition) : Except Refusal Condition :=
  match policy with
  | lenient => do
    let operator ← Operator.require c.operator
    return ⟨c.field, operator, c.value.plain⟩
  | strict => do
    if !Field.isRegistered c.field then throw (.unknownField c.field)
    let operator ← Operator.require c.operator
    match c.value.plainScalar? with
    | some value => return ⟨c.field, operator, value⟩
    | none => throw (.notScalar c.field)

/-- Checks a filter, condition by condition. -/
def checkFilter (policy : Policy) (f : WireFilter) : Except Refusal Filter := do
  let conditions ← f.conditions.mapM policy.check
  return ⟨conditions, f.connective⟩

/-- Reads and checks a text that has to be a filter. -/
def parseFilter (policy : Policy) (text : String) : Except Refusal Filter :=
  match WireFilter.parse text with
  | .ok f => policy.checkFilter f
  | .error failure => .error (.notFilter failure)

end Policy

example : (Json.Value.array [.number (.integer 1), .null]).plain = "[1,null]" := by decide +kernel

end ContactBook
