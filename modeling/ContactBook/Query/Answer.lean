/-
**Answering queries.**

A query is answered over a store with three truth values: a comparison with a missing text is
`unknown`, and a contact is selected when the whole conjunction is `yes`.  A test of tags is `yes`
when some linked tag passes and `no` otherwise.  Days are compared as they are read on the day of
the answer.

What a query selects is settled by its meaning, but whether there is an answer is up to the engine
that keeps the store.  It may refuse a query before it looks at any contact, because the condition
is nested too deep, or fail when it looks at one, because a pattern is too large.  In which order it
tries the tests, and which of them it tries at all, is its own affair.  So an engine is a parameter
here, with the little that can be relied on: it looks at contacts of the organisation alone; whether
it fails at one depends on how the tests come out there; and a query that is not too deep and has no
patterns is answered.

Main definitions:

* `ContactBook.Query.truth`, `ContactBook.Query.selects` — what a query says of a contact;
* `ContactBook.Query.depth` — how deep its condition is nested;
* `ContactBook.Engine` — when there is no answer;
* `ContactBook.Query.run` — the contacts that a query selects, newest first.
-/

import ContactBook.Calendar.TimeValue
import ContactBook.Fault
import ContactBook.Query
import ContactBook.Store
import ContactBook.Truth

set_option autoImplicit false

namespace ContactBook

namespace Query

/-! ### Truth -/

/-- Compares a text of the store with a value, when it is `today`. -/
def Comparison.compare (c : Comparison) (today : Int) (text value : String) : Truth :=
  match c with
  | .equals => .ofBool (text == value)
  | .like => .ofBool (Text.Pattern.accepts value text)
  | .sameDay =>
    match Calendar.dayOf? today text, Calendar.dayOf? today value with
    | some a, some b => .ofBool (a == b)
    | _, _ => .unknown

/-- The truth value of a test for a contact. -/
def Test.truth (today : Int) (q : Query) (s : Store) (r : Record) (t : Test) : Truth :=
  match t.operand with
  | .column c =>
    match r.text? c with
    | some text => t.comparison.compare today text (q.value t.slot)
    | none => .unknown
  | .tagName =>
    .ofBool <| (s.tagNames r.id).any fun name =>
      (t.comparison.compare today name (q.value t.slot)).holds

/-- The truth value of a junction for a contact. -/
def Junction.truth (today : Int) (q : Query) (s : Store) (r : Record) (j : Junction) : Truth :=
  match j.connective with
  | .all => .all (j.tests.map (Test.truth today q s r))
  | .any => .any (j.tests.map (Test.truth today q s r))

/-- The truth value of a query for a contact. -/
def truth (q : Query) (today : Int) (s : Store) (r : Record) : Truth :=
  (Truth.ofBool (r.organizationId == q.tenant)).and
    (.all (q.groups.map (Junction.truth today q s r)))

/-- Whether a query selects a contact. -/
def selects (q : Query) (today : Int) (s : Store) (r : Record) : Bool := (q.truth today s r).holds

/-! ### Depth -/

/-- The height of a comparison as a tree: a column counts two, as it is named after its table, and
a day is taken from it by a function. -/
def Comparison.height : Comparison → Nat
  | .equals | .like => 3
  | .sameDay => 4

/-- The height of a test.  One of tags is a question about a conjunction, one part of which compares
two columns. -/
def Test.height (t : Test) : Nat :=
  match t.operand with
  | .column _ => t.comparison.height
  | .tagName => max 3 t.comparison.height + 2

/-- The height of a junction, in which every test is joined with all before it. -/
def Junction.height (j : Junction) : Nat :=
  match j.tests with
  | [] => 0
  | t :: rest => rest.foldl (fun height t => max height t.height + 1) t.height

/-- The height of the condition that a query is. -/
def height (q : Query) : Nat := q.groups.foldl (fun height j => max height j.height + 1) 3

/-- How deep the condition of a query is nested: what a question about tags asks is nested within
all of it. -/
def depth (q : Query) : Nat :=
  q.height + (((q.groups.flatMap (·.tests)).filter Test.mentionsTags).map Test.height).foldl max 0

/-- The greatest depth of a condition. -/
def maxDepth : Nat := 1000

/-- Whether a query compares something with a pattern. -/
def hasPatterns (q : Query) : Bool :=
  q.groups.any fun j => j.tests.any fun t => t.comparison == .like

end Query

/-! ### Engines -/

/-- **An engine**, as far as answers depend on which one it is. -/
structure Engine where
  /-- The report with which it refuses a query before it looks at any contact. -/
  refusal? : Query → Option Report
  /-- Whether it fails when it looks at a contact for a query, on a day. -/
  trips : Int → Query → Store → Record → Bool
  /-- Whether it fails at a contact depends on how the tests come out there, and on the names of the
  tags of the contact, in whatever order. -/
  trips_congr : ∀ {today today' : Int} {q : Query} {s s' : Store} {r : Record},
    (s.tagNames r.id).Perm (s'.tagNames r.id) →
    (∀ j ∈ q.groups, ∀ t ∈ j.tests, t.truth today q s r = t.truth today' q s' r) →
    trips today q s r = trips today' q s' r
  /-- A query that is not too deep and has no patterns is not refused. -/
  refusal?_eq_none : ∀ {q : Query}, q.hasPatterns = false → q.depth ≤ Query.maxDepth →
    refusal? q = none
  /-- Nor does it fail at any contact. -/
  trips_eq_false : ∀ {q : Query} (today : Int) (s : Store) (r : Record), q.hasPatterns = false →
    trips today q s r = false

namespace Query

/-! ### Answers -/

/-- Whether answering a query fails at a contact.  Contacts of other organisations are not looked
at. -/
def trips (q : Query) (e : Engine) (today : Int) (s : Store) (r : Record) : Bool :=
  r.organizationId == q.tenant && e.trips today q s r

/-- The order of listings: by the stored time of creation, the latest first, then by id. -/
def listedBefore (a b : Record) : Bool :=
  if a.createdAt = b.createdAt then decide (a.id ≤ b.id) else decide (b.createdAt < a.createdAt)

/-- The report of a pattern that is too large. -/
def tooComplex : Report := .failure 1 "LIKE or GLOB pattern too complex"

/-- The contacts that a query selects, in the order of listings. -/
def run (q : Query) (e : Engine) (today : Int) (s : Store) : Except Report (List Record) :=
  match e.refusal? q with
  | some report => .error report
  | none =>
    if s.contacts.any (q.trips e today s) then .error tooComplex
    else .ok ((s.contacts.filter (q.selects today s)).mergeSort listedBefore)

end Query

end ContactBook
