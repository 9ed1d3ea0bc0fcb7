/-
**The columns of the contact table.**

Every column holds text, and most may be empty.  The name of a column is the name that statements,
listings and messages use for it.

Main definitions:

* `ContactBook.Column` — the columns;
* `ContactBook.Column.name` — their names;
* `ContactBook.Column.named?` — the column of a name.
-/

set_option autoImplicit false

namespace ContactBook

/-- A column of the contact table. -/
inductive Column where
  | id
  | organizationId
  | firstName
  | lastName
  | email
  | title
  | currentCompanyName
  | leadStatus
  | city
  | state
  | country
  | createdAt
  | updatedAt
  | lastActivityAt
  | additionalData
  deriving DecidableEq, Repr

namespace Column

/-- The name of a column. -/
def name : Column → String
  | id => "id"
  | organizationId => "organizationId"
  | firstName => "firstName"
  | lastName => "lastName"
  | email => "email"
  | title => "title"
  | currentCompanyName => "currentCompanyName"
  | leadStatus => "leadStatus"
  | city => "city"
  | state => "state"
  | country => "country"
  | createdAt => "createdAt"
  | updatedAt => "updatedAt"
  | lastActivityAt => "lastActivityAt"
  | additionalData => "additionalData"

/-- All columns, in the order of the table. -/
def all : List Column :=
  [id, organizationId, firstName, lastName, email, title, currentCompanyName, leadStatus, city,
    state, country, createdAt, updatedAt, lastActivityAt, additionalData]

/-- The column of a name. -/
def named? (name : String) : Option Column := all.find? fun c => c.name == name

example : named? "leadStatus" = some leadStatus := by decide +kernel
example : named? "leadstatus" = none := by decide +kernel

end Column

end ContactBook
