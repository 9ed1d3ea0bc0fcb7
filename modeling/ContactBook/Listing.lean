/-
**Listing contacts.**

A listing shows the contacts that a query selects, newest first, each with its tags in ascending
order.  The times of a contact are read from the text that the store keeps; the first contact with a
time that cannot be read fails the listing.  Attached data that cannot be read counts as missing.
The store hands the names of the tags over as one JSON text, which is read again; a text that is no
list of strings would count as no tags.

Main definitions:

* `ContactBook.Store.tagText`, `ContactBook.Listing.tagNamesOf` — the names of tags as a JSON text,
  and the names in such a text;
* `ContactBook.Contact.ofRecord` — a row as a contact;
* `ContactBook.Store.list` — a listing;
* `ContactBook.Store.listIds` — only the ids, which never fails on a time.
-/

import ContactBook.Calendar.StoredTime
import ContactBook.Json.Decoder
import ContactBook.Json.Printer
import ContactBook.Query.Answer

set_option autoImplicit false

namespace ContactBook

open Calendar (Instant)

namespace Listing

/-- The number of a time column among the columns of a listing. -/
def columnIndex : Column → Nat
  | c => Column.all.findIdx (· == c)

/-- The report that the text in a time column is no time. -/
def unreadable (column : Column) (fault : Calendar.TimeFault) : Report :=
  .failure 1 ("Conversion error from type Text at index: " ++ toString (columnIndex column) ++
    ", " ++ fault.message)

/-- Reads the text in a time column. -/
def time (column : Column) (text : String) : Except Report Instant :=
  (Instant.ofStored text).mapError (unreadable column)

/-- The names of tags in the text that a statement answers with, if it answers with one. -/
def tagNamesOf (text : Option String) : List String :=
  match text with
  | some text => (Json.decode (.list .string) text).toOption.getD []
  | none => []

end Listing

/-- A row as a contact with the given tags. -/
def Contact.ofRecord (r : Record) (tagNames : List String) : Except Report Contact := do
  let createdAt ← Listing.time .createdAt r.createdAt
  let updatedAt ← Listing.time .updatedAt r.updatedAt
  let lastActivityAt ← r.lastActivityAt.mapM (Listing.time .lastActivityAt)
  let additionalData := r.additionalData.bind fun text => (Json.parse text).toOption
  return ⟨r.id, r.organizationId, r.attributes, createdAt, updatedAt, lastActivityAt,
    additionalData, statusOf? additionalData, Store.sorted tagNames⟩

namespace Store

/-- The names of the tags that are linked to a contact, as the text of a JSON array. -/
def tagText (s : Store) (contactId : String) : String :=
  (Json.Value.array ((s.tagNames contactId).map .string)).render

/-- The contacts that a query selects. -/
def list (s : Store) (e : Engine) (today : Int) (q : Query) : Except Report (List Contact) := do
  let records ← q.run e today s
  records.mapM fun r => Contact.ofRecord r (Listing.tagNamesOf (some (s.tagText r.id)))

/-- The ids of the contacts that a query selects. -/
def listIds (s : Store) (e : Engine) (today : Int) (q : Query) : Except Report (List String) :=
  (q.run e today s).map fun records => records.map (·.id)

end Store

example : Listing.columnIndex .createdAt = 11 := by decide

end ContactBook
