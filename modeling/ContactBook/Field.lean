/-
**The fields that filters may name.**

A filter can reach nine text columns, the three times of a contact and the names of its tags, and
nothing else.  A field knows where its values are kept and how they are compared; what a request
writes is only ever looked up here and never reaches a statement.

Main definitions:

* `ContactBook.ValueKind` — how the values of a column are compared;
* `ContactBook.Field` — a field;
* `ContactBook.Field.registered`, `ContactBook.Field.named?` — the fields there are, and finding
  one by its name.
-/

import ContactBook.Column

set_option autoImplicit false

namespace ContactBook

/-- How the values of a column are compared: as free text, as one of a few words, or as times of
which equality looks at the day alone. -/
inductive ValueKind where
  | text
  | enum
  | date
  deriving DecidableEq, Repr

/-- The word for a kind of values. -/
def ValueKind.name : ValueKind → String
  | .text => "text"
  | .enum => "enum"
  | .date => "date"

/-- A field that a filter may name: a column of the contact itself, or the names of the tags that
are linked to it. -/
inductive Field where
  | own (column : Column) (kind : ValueKind)
  | tags
  deriving DecidableEq, Repr

namespace Field

/-- The name of a field. -/
def name : Field → String
  | own column _ => column.name
  | tags => "tags"

/-- The name of the column that holds the values. -/
def columnName : Field → String
  | own column _ => column.name
  | tags => "name"

/-- The word for the kind of a field. -/
def kindName : Field → String
  | own _ kind => kind.name
  | tags => "relation"

/-- The fields there are. -/
def registered : List Field :=
  [own .firstName .text, own .lastName .text, own .email .text, own .title .text,
    own .currentCompanyName .text, own .leadStatus .enum, own .city .text, own .state .text,
    own .country .text, own .createdAt .date, own .updatedAt .date, own .lastActivityAt .date,
    tags]

/-- The field of a name. -/
def named? (name : String) : Option Field := registered.find? fun f => f.name == name

/-- Whether a name is that of a field. -/
def isRegistered (name : String) : Bool := (named? name).isSome

example : named? "createdAt" = some (own .createdAt .date) := by decide +kernel
example : named? "additionalData" = none := by decide +kernel
example : (registered.map name).Nodup := by decide +kernel

end Field

end ContactBook
