/-
**Faults.**

What a user is told when something cannot be done.  The kind of a fault decides how it is answered
and whether the user may read its reason; the reason is a text for people.  Faults that the user
caused are shown as they are, the others only by their kind.

Main definitions:

* `ContactBook.Fault` — the kinds of fault, each with its reason;
* `ContactBook.Fault.message`, `ContactBook.Fault.code` — the text for people and the stable code;
* `ContactBook.Report`, `ContactBook.Fault.ofReport` — what the storage reports, and as what fault
  that counts.
-/

set_option autoImplicit false

namespace ContactBook

/-- Why something could not be done. -/
inductive Fault where
  /-- The settings cannot be used. -/
  | settings (reason : String)
  /-- The request is not valid. -/
  | invalid (reason : String)
  /-- The request names no organisation. -/
  | unauthenticated
  /-- The contacts still take part in workflows. -/
  | dependents (contactIds : List String)
  /-- Nothing is there that was asked for. -/
  | notFound (reason : String)
  /-- The change would break a rule of the store. -/
  | constraint (reason : String)
  /-- The storage failed. -/
  | storage (reason : String)
  /-- An earlier task failed while it held the store. -/
  | locked (reason : String)
  deriving DecidableEq, Repr

namespace Fault

/-- The text for people. -/
def message : Fault → String
  | settings reason => "Config error: " ++ reason
  | invalid reason => "Validation error: " ++ reason
  | unauthenticated => "Missing or malformed tenant identity"
  | dependents ids => "Contacts have active workflow states: " ++ String.intercalate ", " ids
  | notFound reason => "Not found: " ++ reason
  | constraint reason => "Constraint violation: " ++ reason
  | storage reason => "Store error: " ++ reason
  | locked reason => "Lock poisoned: " ++ reason

/-- The code for programs; it never changes. -/
def code : Fault → String
  | settings _ => "CONFIGURATION_ERROR"
  | invalid _ => "VALIDATION_FAILED"
  | unauthenticated => "UNAUTHENTICATED"
  | dependents _ => "DEPENDENCY_CONFLICT"
  | notFound _ => "NOT_FOUND"
  | constraint _ => "CONSTRAINT_VIOLATION"
  | storage _ => "STORE_ERROR"
  | locked _ => "INTERNAL_ERROR"

/-- Whether the user caused the fault and may read its reason. -/
def isClientFault : Fault → Bool
  | invalid _ | unauthenticated | dependents _ | notFound _ | constraint _ => true
  | settings _ | storage _ | locked _ => false

end Fault

/-! ### Reports of the storage -/

/-- What the storage reports when a statement fails: a numbered failure with a text, or that there
is no row where one was expected. -/
inductive Report where
  | failure (code : Nat) (text : String)
  | noRow
  deriving DecidableEq, Repr

namespace Report

/-- The number of a broken reference between tables. -/
def brokenReference : Nat := 787

end Report

/-- As what fault a report counts. -/
def Fault.ofReport : Report → Fault
  | .failure code text =>
    if code == Report.brokenReference then
      .constraint "the operation would orphan dependent records"
    else .storage text
  | .noRow => .notFound "no matching record"

/-- The fault of a store that an earlier task left locked. -/
def Fault.poisoned : Fault := .locked "poisoned lock: another task failed inside"

example : (Fault.dependents ["c1", "c2"]).message =
    "Contacts have active workflow states: c1, c2" := by decide +kernel
example : Fault.ofReport (.failure 787 "") =
    .constraint "the operation would orphan dependent records" := by decide

end ContactBook
