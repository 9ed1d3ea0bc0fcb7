/-
**Queries.**

A query selects contacts of one organisation.  It is a conjunction: the contact belongs to the
organisation, and each of some groups of tests holds.  A test compares a column of the contact, or
the name of some tag that is linked to it, with one of the values that the query binds; it names
the value by its slot.  The organisation is the value in slot zero.

A filter becomes a group with one test and one value for each of its conditions, except that
conditions on fields that are not registered are passed over.  A search term becomes a group of
tests on six columns that share one value.  A group without tests is left out.

Main definitions:

* `ContactBook.Query.Test`, `ContactBook.Query.Group`, `ContactBook.Query` — queries;
* `ContactBook.Query.Group.ofFilter`, `ofSearch` — the groups of a filter and of a search term;
* `ContactBook.Query.matching` — the query that listing and deleting share;
* `ContactBook.Query.clause` — the query as the condition of a statement.
-/

import ContactBook.Clause
import ContactBook.Field
import ContactBook.Filter
import ContactBook.Text.Blank

set_option autoImplicit false

namespace ContactBook

namespace Query

/-- What a test looks at: a column of the contact, or the names of its tags. -/
inductive Operand where
  | column (c : Column)
  | tagName
  deriving DecidableEq, Repr

/-- How a test compares: the same text, the same day, or a text that matches a pattern. -/
inductive Comparison where
  | equals
  | sameDay
  | like
  deriving DecidableEq, Repr

/-- A comparison of an operand with the value in a slot. -/
structure Test where
  operand : Operand
  comparison : Comparison
  slot : Nat
  deriving DecidableEq, Repr

/-- The same test where its value has moved behind `offset` others. -/
def Test.shift (offset : Nat) (t : Test) : Test := { t with slot := t.slot + offset }

/-- Whether a test looks at tags. -/
def Test.mentionsTags (t : Test) : Bool := t.operand == .tagName

/-- Tests and how they are joined. -/
structure Junction where
  connective : Connective
  tests : List Test
  deriving DecidableEq, Repr

/-- The same junction where its values have moved behind `offset` others. -/
def Junction.shift (offset : Nat) (j : Junction) : Junction :=
  { j with tests := j.tests.map (Test.shift offset) }

/-- Whether a junction looks at tags. -/
def Junction.mentionsTags (j : Junction) : Bool := j.tests.any Test.mentionsTags

/-- A junction with the values that it needs. -/
structure Group where
  junction : Junction
  binds : List String
  deriving DecidableEq, Repr

/-! ### Groups -/

/-- What the values of a field are found in. -/
def operandOf : Field → Operand
  | .own column _ => .column column
  | .tags => .tagName

/-- How an operator compares the values of a field: times are equal when their days are. -/
def comparisonOf : Field → Operator → Comparison
  | .own _ .date, .equals => .sameDay
  | _, .equals => .equals
  | _, _ => .like

/-- The conditions of a filter that are on registered fields, with these fields. -/
def registered (f : Filter) : List (Field × Condition) :=
  f.conditions.filterMap fun c => (Field.named? c.field).map fun field => (field, c)

/-- The field names of the conditions of a filter that are passed over. -/
def passedOver (f : Filter) : List String :=
  (f.conditions.filter fun c => !Field.isRegistered c.field).map (·.field)

/-- The tests of conditions whose values are bound in order from a slot on. -/
def testsFrom (slot : Nat) : List (Field × Condition) → List Test
  | [] => []
  | (field, c) :: rest =>
    ⟨operandOf field, comparisonOf field c.operator, slot⟩ :: testsFrom (slot + 1) rest

/-- The group of a filter: each condition on a registered field is a test with a value of its
own. -/
def Group.ofFilter (f : Filter) : Group :=
  let conditions := registered f
  ⟨⟨f.connective, testsFrom 0 conditions⟩, conditions.map fun (_, c) => c.bound⟩

/-- The columns that a search term is looked for in. -/
def searched : List Column :=
  [.firstName, .lastName, .email, .leadStatus, .title, .currentCompanyName]

/-- The group of a search term: some of the searched columns contains it.  All of them are compared
with one value.  Blanks around the term do not count, and a blank term has no group. -/
def Group.ofSearch? (term : String) : Option Group :=
  let term := Text.trim term
  if term.isEmpty then none
  else some ⟨⟨.any, searched.map fun c => ⟨.column c, .like, 0⟩⟩,
    [Text.Pattern.containing term]⟩

end Query

/-- A query: groups of tests that all have to hold, and the values that the tests name by their
slots.  The value in slot zero is the organisation. -/
structure Query where
  groups : List Query.Junction
  binds : List String
  deriving DecidableEq, Repr

namespace Query

/-- The value in a slot. -/
def value (q : Query) (slot : Nat) : String := q.binds.getD slot ""

/-- The organisation of a query. -/
def tenant (q : Query) : String := q.value 0

/-- Whether a query looks at tags. -/
def mentionsTags (q : Query) : Bool := q.groups.any Junction.mentionsTags

/-- All contacts of an organisation. -/
def ofTenant (tenant : String) : Query := ⟨[], [tenant]⟩

/-- A query with one more group that has to hold. -/
def andGroup (q : Query) (g : Group) : Query :=
  if g.junction.tests.isEmpty then q
  else ⟨q.groups ++ [g.junction.shift q.binds.length], q.binds ++ g.binds⟩

/-- The contacts of an organisation that a filter selects, if there is one. -/
def compile (tenant : String) (filter : Option Filter) : Query :=
  match filter with
  | none => ofTenant tenant
  | some f => (ofTenant tenant).andGroup (Group.ofFilter f)

/-- A query narrowed by a search term. -/
def search (q : Query) (term : String) : Query :=
  match Group.ofSearch? term with
  | none => q
  | some g => q.andGroup g

/-- The contacts that a filter and a search term refer to. -/
def matching (tenant : String) (filter : Option Filter) (term : Option String) : Query :=
  match term with
  | none => compile tenant filter
  | some term => (compile tenant filter).search term

/-! ### Queries as clauses -/

/-- A column of the contact, as statements write it. -/
def columnText (c : Column) : String := "c.\"" ++ c.name ++ "\""

/-- What stands before and after the value in a comparison of `target`. -/
def comparisonText (target : String) : Comparison → String × String
  | .equals => (target ++ " = ", "")
  | .sameDay => ("date(" ++ target ++ ") = date(", ")")
  | .like => (target ++ " LIKE ", " ESCAPE '\\'")

/-- What stands before and after the value in a test.  A test of tags asks whether some linked tag
passes. -/
def Test.text (t : Test) : String × String :=
  match t.operand with
  | .column c => comparisonText (columnText c) t.comparison
  | .tagName =>
    let (before, after) := comparisonText "t.\"name\"" t.comparison
    ("EXISTS (SELECT 1 FROM \"ContactTag\" ct JOIN \"Tag\" t ON t.\"id\" = ct.\"tagId\" " ++
      "WHERE ct.\"contactId\" = c.\"id\" AND " ++ before, after ++ ")")

/-- The pieces of a test. -/
def Test.pieces (t : Test) : List Piece :=
  let (before, after) := t.text
  if after.isEmpty then [.text before, .param t.slot]
  else [.text before, .param t.slot, .text after]

/-- The pieces of tests, with a word between any two. -/
def testsPieces (joiner : String) : List Test → List Piece
  | [] => []
  | [t] => t.pieces
  | t :: rest => Clause.join (Clause.join t.pieces [.text joiner]) (testsPieces joiner rest)

/-- The pieces of a junction. -/
def Junction.pieces (j : Junction) : List Piece :=
  testsPieces (" " ++ j.connective.keyword ++ " ") j.tests

/-- A group as a clause. -/
def Group.clause (g : Group) : Clause := ⟨g.junction.pieces, g.binds⟩

/-- The pieces of a further junction of a conjunction. -/
def furtherPieces (pieces : List Piece) (j : Junction) : List Piece :=
  Clause.join (Clause.join (Clause.join pieces [.text " AND ("]) j.pieces) [.text ")"]

/-- A query as the condition of a statement on the contact table, which goes by the name `c`. -/
def clause (q : Query) : Clause :=
  ⟨q.groups.foldl furtherPieces
    [.text (columnText .organizationId ++ " = "), .param 0], q.binds⟩

example : (matching "acme" (some ⟨[⟨"city", .equals, "Oslo"⟩], .all⟩)
    (some " x ")).clause.render.params = ["acme", "Oslo", "%x%"] := by decide +kernel
example : (compile "acme" (some ⟨[⟨"createdAt", .equals, "2024-01-01"⟩, ⟨"x", .equals, ""⟩],
    .all⟩)).clause.render.sql =
    "c.\"organizationId\" = ?1 AND (date(c.\"createdAt\") = date(?2))" := by decide +kernel

end Query

end ContactBook
