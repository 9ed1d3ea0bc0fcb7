/-
**Requests to delete, as they are written.**

The body of such a request is a JSON object.  It either lists ids of contacts, or says that all
matching contacts are meant and with what filter and search term; then ids do not count.

Main definitions:

* `ContactBook.Deletion.Body`, `ContactBook.Deletion.Body.decoder` — a body, and reading it;
* `ContactBook.Deletion.Body.request` — the request that a body makes.
-/

import ContactBook.Deletion
import ContactBook.Filter.Policy

set_option autoImplicit false

namespace ContactBook.Deletion

open Json (Decoder)

/-- The body of a request to delete contacts. -/
structure Body where
  contactIds : Option (List String) := none
  isSelectAllMatchingActive : Option Bool := none
  filterState : Option WireFilter := none
  searchTerm : Option String := none
  force : Option Bool := none

namespace Body

/-- The members of a body. -/
def members : List (Decoder.Member Body) :=
  [Decoder.member "contactIds" (.optional (.list .string)) fun x b => { b with contactIds := x },
    Decoder.member "isSelectAllMatchingActive" (.optional .bool) fun x b =>
      { b with isSelectAllMatchingActive := x },
    Decoder.member "filterState" (.optional WireFilter.decoder) fun x b =>
      { b with filterState := x },
    Decoder.member "searchTerm" (.optional .string) fun x b => { b with searchTerm := x },
    Decoder.member "force" (.optional .bool) fun x b => { b with force := x }]

/-- Reads a body.  Written as a list it has to be complete. -/
def decoder : Decoder Body :=
  .record "struct BulkDeleteBody" (some "struct BulkDeleteBody with 5 elements") members {}

/-- Reads a text that is a body and nothing else. -/
def parse (text : String) : Except Json.Failure Body := Json.decode decoder text

/-- The fault of a body that means no contacts. -/
def noContacts : Fault :=
  .invalid "contactIds must be a non-empty array unless isSelectAllMatchingActive is true"

/-- The request that a body makes. -/
def request (policy : Policy) (b : Body) : Except Fault Request :=
  let force := b.force.getD false
  if b.isSelectAllMatchingActive == some true then do
    let filter ← b.filterState.mapM fun f => (policy.checkFilter f).mapError Refusal.fault
    return ⟨.matching filter b.searchTerm, force⟩
  else
    match b.contactIds with
    | none | some [] => .error noContacts
    | some ids => .ok ⟨.explicit ids, force⟩

end Body

end ContactBook.Deletion
