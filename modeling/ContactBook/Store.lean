/-
**The store.**

The store has four tables: contacts, tags, links between the two, and states of workflows that
contacts take part in.  Contacts are kept as text, the times among it in their stored form.

Main definitions:

* `ContactBook.Record`, `ContactBook.Tag`, `ContactBook.Link`, `ContactBook.WorkflowState` — the
  rows of the tables;
* `ContactBook.Store` — the tables;
* `ContactBook.Store.tagNames` — the names of the tags that are linked to a contact.
-/

import ContactBook.Column
import ContactBook.Contact

set_option autoImplicit false

namespace ContactBook

/-- A row of the contact table. -/
structure Record where
  id : String
  organizationId : String
  attributes : Attributes
  createdAt : String
  updatedAt : String
  lastActivityAt : Option String
  additionalData : Option String
  deriving DecidableEq, Repr

/-- The text in a column. -/
def Record.text? (r : Record) : Column → Option String
  | .id => some r.id
  | .organizationId => some r.organizationId
  | .firstName => r.attributes.firstName
  | .lastName => r.attributes.lastName
  | .email => r.attributes.email
  | .title => r.attributes.title
  | .currentCompanyName => r.attributes.currentCompanyName
  | .leadStatus => r.attributes.leadStatus
  | .city => r.attributes.city
  | .state => r.attributes.state
  | .country => r.attributes.country
  | .createdAt => some r.createdAt
  | .updatedAt => some r.updatedAt
  | .lastActivityAt => r.lastActivityAt
  | .additionalData => r.additionalData

/-- A tag of an organisation. -/
structure Tag where
  id : Nat
  organizationId : String
  name : String
  deriving DecidableEq, Repr

/-- A tag on a contact. -/
structure Link where
  contactId : String
  tagId : Nat
  deriving DecidableEq, Repr

/-- A workflow that a contact takes part in. -/
structure WorkflowState where
  id : Nat
  contactId : String
  workflow : String
  deriving DecidableEq, Repr

/-- The tables, each in the order in which its rows were added. -/
structure Store where
  contacts : List Record := []
  tags : List Tag := []
  links : List Link := []
  workflowStates : List WorkflowState := []
  deriving DecidableEq, Repr

namespace Store

/-- The store without rows. -/
def empty : Store := {}

/-- Whether there is a contact with an id. -/
def hasContact (s : Store) (id : String) : Bool := s.contacts.any fun r => r.id == id

/-- The names of the tags that are linked to a contact, one for each link. -/
def tagNames (s : Store) (contactId : String) : List String :=
  (s.links.filter fun l => l.contactId == contactId).flatMap fun l =>
    (s.tags.filter fun t => t.id == l.tagId).map (·.name)

/-- How many workflow states a contact has. -/
def workflowCount (s : Store) (contactId : String) : Nat :=
  s.workflowStates.countP fun w => w.contactId == contactId

/-- Whether a contact takes part in a workflow. -/
def hasWorkflow (s : Store) (contactId : String) : Bool :=
  s.workflowStates.any fun w => w.contactId == contactId

/-- Texts in ascending order. -/
def sorted (texts : List String) : List String := texts.mergeSort fun a b => decide (a ≤ b)

/-- The ids of the contacts of an organisation, in ascending order. -/
def contactIds (s : Store) (tenant : String) : List String :=
  sorted ((s.contacts.filter fun r => r.organizationId == tenant).map (·.id))

end Store

end ContactBook
