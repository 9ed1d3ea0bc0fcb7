/-
**Writing to the store.**

Each write either changes the store and answers, or is refused with a report.  An id belongs to one
contact in all organisations.  A tag is made when it is first used, and that is kept even if the
contact it was meant for turns out not to exist.  Links and workflow states refer to contacts that
exist, so the id of a contact that has either cannot be changed.

Main definitions:

* `ContactBook.Draft.record` — a draft as a row;
* `ContactBook.Store.addContact`, `tagContact`, `addWorkflow`, `overwrite` — the writes.
-/

import ContactBook.Fault
import ContactBook.Json.Printer
import ContactBook.Store

set_option autoImplicit false

namespace ContactBook

open Calendar (Instant)

namespace Report

/-- The report that some text is there already which has to be unique. -/
def notUnique (column : Column) : Report :=
  .failure 1555 ("UNIQUE constraint failed: Contact." ++ column.name)

/-- The report that a text is missing which has to be there. -/
def missing (column : Column) : Report :=
  .failure 1299 ("NOT NULL constraint failed: Contact." ++ column.name)

/-- The report that rows would refer to a contact that does not exist. -/
def dangling : Report := .failure brokenReference "FOREIGN KEY constraint failed"

end Report

/-- A draft as a row of an organisation, at the given time. -/
def Draft.record (d : Draft) (tenant : String) (now : Instant) : Record :=
  let createdAt := (d.createdAt.getD now).stored
  ⟨d.id, tenant, d.attributes, createdAt, createdAt, d.lastActivityAt.map Instant.stored,
    d.additionalData.map Json.Value.render⟩

/-- A row with another text in a column.  Some columns need a text. -/
def Record.set (r : Record) (column : Column) (text : Option String) : Except Report Record :=
  let required (set : String → Record) : Except Report Record :=
    match text with
    | some s => .ok (set s)
    | none => .error (.missing column)
  let known (set : Attributes → Attributes) : Except Report Record :=
    .ok { r with attributes := set r.attributes }
  match column with
  | .id => required fun s => { r with id := s }
  | .organizationId => required fun s => { r with organizationId := s }
  | .firstName => known fun a => { a with firstName := text }
  | .lastName => known fun a => { a with lastName := text }
  | .email => known fun a => { a with email := text }
  | .title => known fun a => { a with title := text }
  | .currentCompanyName => known fun a => { a with currentCompanyName := text }
  | .leadStatus => known fun a => { a with leadStatus := text }
  | .city => known fun a => { a with city := text }
  | .state => known fun a => { a with state := text }
  | .country => known fun a => { a with country := text }
  | .createdAt => required fun s => { r with createdAt := s }
  | .updatedAt => required fun s => { r with updatedAt := s }
  | .lastActivityAt => .ok { r with lastActivityAt := text }
  | .additionalData => .ok { r with additionalData := text }

namespace Store

/-- The store with a contact of an organisation added. -/
def addContact (s : Store) (tenant : String) (draft : Draft) (now : Instant) :
    Except Report Store :=
  if s.hasContact draft.id then .error (.notUnique .id)
  else .ok { s with contacts := s.contacts ++ [draft.record tenant now] }

/-- The id after the greatest of some ids. -/
def nextId (ids : List Nat) : Nat := ids.foldl max 0 + 1

/-- The tag of an organisation with a name. -/
def tag? (s : Store) (tenant name : String) : Option Tag :=
  s.tags.find? fun t => t.organizationId == tenant && t.name == name

/-- The store in which an organisation has a tag with a name, and that tag. -/
def ensureTag (s : Store) (tenant name : String) : Store × Tag :=
  match s.tag? tenant name with
  | some t => (s, t)
  | none =>
    let t : Tag := ⟨nextId (s.tags.map (·.id)), tenant, name⟩
    ({ s with tags := s.tags ++ [t] }, t)

/-- Links a contact to the tag of an organisation with a name.  The store that is left counts even
if the link is refused: then the tag may be new. -/
def tagContact (s : Store) (tenant contactId name : String) : Except Report Unit × Store :=
  let (s, t) := s.ensureTag tenant name
  let link : Link := ⟨contactId, t.id⟩
  if s.links.contains link then (.ok (), s)
  else if s.hasContact contactId then (.ok (), { s with links := s.links ++ [link] })
  else (.error .dangling, s)

/-- The store with a workflow state of a contact added, and the id of that state. -/
def addWorkflow (s : Store) (contactId workflow : String) : Except Report (Nat × Store) :=
  if s.hasContact contactId then
    let id := nextId (s.workflowStates.map (·.id))
    .ok (id, { s with workflowStates := s.workflowStates ++ [⟨id, contactId, workflow⟩] })
  else .error .dangling

/-- Whether rows refer to a contact. -/
def isReferred (s : Store) (contactId : String) : Bool :=
  s.links.any (fun l => l.contactId == contactId) || s.hasWorkflow contactId

/-- The store with another text in a column of one contact, and the number of contacts changed. -/
def overwrite (s : Store) (id : String) (column : Column) (text : Option String) :
    Except Report (Nat × Store) :=
  match s.contacts.find? fun r => r.id == id with
  | none => .ok (0, s)
  | some r =>
    match r.set column text with
    | .error report => .error report
    | .ok changed =>
      if changed.id != id && s.hasContact changed.id then .error (.notUnique .id)
      else if changed.id != id && s.isReferred id then .error .dangling
      else .ok (1, { s with contacts := s.contacts.map fun r => if r.id == id then changed else r })

end Store

end ContactBook
