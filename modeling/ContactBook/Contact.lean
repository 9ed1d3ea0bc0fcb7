/-
**Contacts.**

A contact belongs to one organisation and has nine attributes, each of which may be missing.  Users
also attach data of any shape to it; if that data has a status, listings show it beside the
attributes.

Main definitions:

* `ContactBook.Attributes` — the nine attributes;
* `ContactBook.Draft` — a contact that is to be added;
* `ContactBook.Contact` — a contact as it is listed;
* `ContactBook.statusOf?` — the status in attached data;
* `ContactBook.Contact.json` — a listed contact as a JSON object.
-/

import ContactBook.Calendar.Instant
import ContactBook.Json.Value

set_option autoImplicit false

namespace ContactBook

open Calendar (Instant)

/-- What is known of a contact. -/
structure Attributes where
  firstName : Option String := none
  lastName : Option String := none
  email : Option String := none
  title : Option String := none
  currentCompanyName : Option String := none
  leadStatus : Option String := none
  city : Option String := none
  state : Option String := none
  country : Option String := none
  deriving DecidableEq, Repr

/-- A contact that is to be added; without a time of creation it is created now. -/
structure Draft where
  id : String
  attributes : Attributes := {}
  createdAt : Option Instant := none
  lastActivityAt : Option Instant := none
  additionalData : Option Json.Value := none

/-- A contact as it is listed. -/
structure Contact where
  id : String
  organizationId : String
  attributes : Attributes
  createdAt : Instant
  updatedAt : Instant
  lastActivityAt : Option Instant
  additionalData : Option Json.Value
  status : Option Json.Value
  tags : List String

/-- The status in attached data: the member of that name, unless it is `null`. -/
def statusOf? (data : Option Json.Value) : Option Json.Value :=
  (data.bind (Json.Value.member? "status")).filter fun status => !status.isNull

/-! ### Contacts as JSON -/

/-- A text, or `null`. -/
def textOrNull : Option String → Json.Value
  | some s => .string s
  | none => .null

/-- The members for the attributes. -/
def Attributes.members (a : Attributes) : List (String × Json.Value) :=
  [("firstName", textOrNull a.firstName), ("lastName", textOrNull a.lastName),
    ("email", textOrNull a.email), ("title", textOrNull a.title),
    ("currentCompanyName", textOrNull a.currentCompanyName),
    ("leadStatus", textOrNull a.leadStatus), ("city", textOrNull a.city),
    ("state", textOrNull a.state), ("country", textOrNull a.country)]

/-- A contact as a JSON object, its members in the order of the table.  Only a status that is
missing is left out. -/
def Contact.json (c : Contact) : Json.Value :=
  .object <|
    [("id", .string c.id), ("organizationId", .string c.organizationId)] ++ c.attributes.members ++
    [("createdAt", .string c.createdAt.listed), ("updatedAt", .string c.updatedAt.listed),
      ("lastActivityAt", textOrNull (c.lastActivityAt.map Instant.listed)),
      ("additionalData", c.additionalData.getD .null)] ++
    (c.status.toList.map fun status => ("status", status)) ++
    [("tags", .array (c.tags.map .string))]

end ContactBook
