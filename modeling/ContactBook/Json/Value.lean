/-
**JSON values.**

A number is kept as a whole number where it was written as one in the 64-bit ranges, signed or
unsigned, and as a binary floating-point number otherwise; minus zero is of the second kind.

An object is a list of named members and is written in their order.  `put` keeps members that
ascend by name in that order, each name once.  Objects that are read are made with it, so two texts
with the same members give equal values.

Main definitions:

* `ContactBook.Json.Value`, `ContactBook.Json.Number` — the values;
* `ContactBook.Json.Value.put` — a member added to, or replaced in, the members of an object.
-/

import ContactBook.Decimal.Binary64

set_option autoImplicit false

namespace ContactBook.Json

open ContactBook.Decimal (Binary64)

/-- A JSON number. -/
inductive Number where
  | integer (i : Int)
  | double (x : Binary64)
  deriving DecidableEq, Repr

/-- A JSON value. -/
inductive Value where
  | null
  | bool (b : Bool)
  | number (n : Number)
  | string (s : String)
  | array (items : List Value)
  | object (members : List (String × Value))
  deriving Repr

namespace Value

/-- Whether a value is `null`. -/
def isNull : Value → Bool
  | .null => true
  | _ => false

/-- Ascending members with one of them set; a name that is there already gets the new value. -/
def put (name : String) (value : Value) : List (String × Value) → List (String × Value)
  | [] => [(name, value)]
  | (n, v) :: rest =>
    if name < n then (name, value) :: (n, v) :: rest
    else if name = n then (name, value) :: rest
    else (n, v) :: put name value rest

/-- The object with the given members; of two with one name the later counts. -/
def ofMembers (members : List (String × Value)) : Value :=
  .object (members.foldl (fun acc (n, v) => put n v acc) [])

/-- The member of an object with the given name. -/
def member? (name : String) : Value → Option Value
  | .object members => (members.find? fun m => m.1 == name).map Prod.snd
  | _ => none

end Value

end ContactBook.Json
