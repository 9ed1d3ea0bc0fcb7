/-
**The book: what users can ask of a store.**

A book is a store with the engine that keeps it and a policy for filters.  Users list the contacts
of their organisation and delete many of them at once; a filter can ask for the present day, so
these requests are made on a day.  A task that fails while it holds the store leaves the book
locked, and then every request fails until the store is opened anew.

Main definitions:

* `ContactBook.Book` — a book;
* `ContactBook.Policy.parseParameter` — the filter in a parameter of a request;
* `ContactBook.Book.addContact`, `tagContact`, `addWorkflow` — filling the store;
* `ContactBook.Book.list`, `listIds`, `delete` — the requests.
-/

import ContactBook.Deletion.Body
import ContactBook.Listing
import ContactBook.Query.Engine
import ContactBook.Store.Write

set_option autoImplicit false

namespace ContactBook

/-- The filter that a parameter holds.  A blank one holds none.  Under the lenient policy a text
that is no filter at all counts as none as well; a filter with a condition that is refused never
does. -/
def Policy.parseParameter (policy : Policy) (text : Option String) :
    Except Fault (Option Filter) :=
  match (text.map Text.trim).filter (fun t => !t.isEmpty) with
  | none => .ok none
  | some text =>
    match WireFilter.parse text, policy with
    | .ok f, _ => ((policy.checkFilter f).map some).mapError Refusal.fault
    | .error _, .lenient => .ok none
    | .error failure, .strict => .error (Refusal.notFilter failure).fault

/-- A store with the engine that keeps it and a policy for filters. -/
structure Book where
  policy : Policy
  store : Store
  engine : Engine := .builtIn
  locked : Bool := false

namespace Book

/-- Reads from the store, unless the book is locked. -/
def read {α : Type} (b : Book) (ask : Store → Except Report α) : Except Fault α :=
  if b.locked then .error .poisoned else (ask b.store).mapError Fault.ofReport

/-- Writes to the store, unless the book is locked. -/
def write {α : Type} (b : Book) (act : Store → Except Report α × Store) : Except Fault α × Book :=
  if b.locked then (.error .poisoned, b)
  else
    let (result, s) := act b.store
    (result.mapError Fault.ofReport, { b with store := s })

/-- A write that leaves the store as it is when it is refused. -/
def orElseUnchanged {α : Type} (act : Store → Except Report (α × Store)) (s : Store) :
    Except Report α × Store :=
  match act s with
  | .ok (a, s) => (.ok a, s)
  | .error report => (.error report, s)

/-- Adds a contact of an organisation. -/
def addContact (b : Book) (tenant : String) (draft : Draft) (now : Calendar.Instant) :
    Except Fault Unit × Book :=
  b.write <| orElseUnchanged fun s => (s.addContact tenant draft now).map fun s => ((), s)

/-- Puts a tag of an organisation on a contact. -/
def tagContact (b : Book) (tenant contactId name : String) : Except Fault Unit × Book :=
  b.write fun s => s.tagContact tenant contactId name

/-- Lets a contact take part in a workflow, and gives the id of its state. -/
def addWorkflow (b : Book) (contactId workflow : String) : Except Fault Nat × Book :=
  b.write <| orElseUnchanged fun s => s.addWorkflow contactId workflow

/-- Changes the text in a column of a contact, and gives the number of contacts changed. -/
def overwrite (b : Book) (id : String) (column : Column) (text : Option String) :
    Except Fault Nat × Book :=
  b.write <| orElseUnchanged fun s => s.overwrite id column text

/-- Lists the contacts of an organisation that a filter and a search term select `today`. -/
def list (b : Book) (today : Int) (tenant : String) (filter : Option Filter)
    (term : Option String) : Except Fault (List Contact) :=
  b.read fun s => s.list b.engine today (Query.matching tenant filter term)

/-- Lists only the ids. -/
def listIds (b : Book) (today : Int) (tenant : String) (filter : Option Filter)
    (term : Option String) : Except Fault (List String) :=
  b.read fun s => s.listIds b.engine today (Query.matching tenant filter term)

/-- Works off a request, made `today`, to delete contacts of an organisation. -/
def delete (b : Book) (today : Int) (tenant : String) (request : Deletion.Request) :
    Except Fault Deletion.Outcome × Book :=
  if b.locked then (.error .poisoned, b)
  else
    let (outcome, s) := Deletion.run b.engine today b.store tenant request
    (outcome, { b with store := s })

end Book

end ContactBook
