/-
**The book as a web service.**

Three paths are served: one that tells that the service is up, one that lists contacts and one that
deletes many of them.  The organisation is named by a header that the layer in front sets; it is
looked at before anything else of the request.  Every answer allows use from pages of any origin,
and the question what is allowed is answered for any path.

A fault that the user caused is answered with its reason; any other only with its code, unless the
service is told to expose details.

Main definitions:

* `ContactBook.Fault.status`, `ContactBook.Http.faultResponse` — faults as responses;
* `ContactBook.Http.tenant?` — the organisation that a request is made for;
* `ContactBook.Http.serve` — the answer to a request, and the book that it leaves.
-/

import ContactBook.Book
import ContactBook.Http.Form
import ContactBook.Http.MediaType
import ContactBook.Text.Utf8

set_option autoImplicit false

namespace ContactBook

/-- The status that answers a fault. -/
def Fault.status : Fault → Nat
  | .invalid _ | .dependents _ | .constraint _ => 400
  | .unauthenticated => 401
  | .notFound _ => 404
  | .settings _ | .storage _ | .locked _ => 500

namespace Http

/-! ### Responses -/

/-- A response that is JSON. -/
def jsonResponse (status : Nat) (value : Json.Value) : Response :=
  ⟨status, [("content-type", "application/json")], value.render⟩

/-- A response that is text. -/
def textResponse (status : Nat) (text : String) : Response :=
  ⟨status, [("content-type", "text/plain; charset=utf-8")], text⟩

/-- What a user reads of a fault, as a JSON object. -/
def faultJson (exposeDetails : Bool) (f : Fault) : Json.Value :=
  if f.isClientFault then
    let contactIds := match f with
      | .dependents ids => [("contactIds", Json.Value.array (ids.map .string))]
      | _ => []
    .object ([("error", .string f.message), ("code", .string f.code)] ++ contactIds)
  else
    let details := if exposeDetails then [("details", Json.Value.string f.message)] else []
    .object ([("error", .string "Internal server error"), ("code", .string f.code)] ++ details)

/-- A fault as a response. -/
def faultResponse (exposeDetails : Bool) (f : Fault) : Response :=
  jsonResponse f.status (faultJson exposeDetails f)

/-! ### The organisation of a request -/

/-- The header that names the organisation. -/
def tenantHeader : String := "x-organization-id"

/-- The greatest number of characters in the name of an organisation. -/
def tenantSize : Nat := 128

/-- Whether a character can be printed. -/
def isPrintable (c : Char) : Bool := 0x20 ≤ c.toNat && c.toNat ≤ 0x7E

/-- The organisation that a request is made for: a short printable text, without the blanks around
it. -/
def tenant? (r : Request) : Option String :=
  ((r.headerText? tenantHeader).map Text.trim).filter fun name =>
    1 ≤ name.length && name.length ≤ tenantSize && name.toList.all isPrintable

/-! ### Parameters -/

/-- The parameters of a listing. -/
structure ListParameters where
  filters : Option String := none
  search : Option String := none
  deriving DecidableEq, Repr

namespace ListParameters

/-- Takes in one parameter; the error is the name of one that came before. -/
def put (p : ListParameters) (name value : String) : Except String ListParameters :=
  if name == "filters" then
    if p.filters.isSome then .error "filters" else .ok { p with filters := some value }
  else if name == "search" || name == "searchTerm" then
    if p.search.isSome then .error "search" else .ok { p with search := some value }
  else .ok p

/-- The parameters in a target. -/
def ofRequest (r : Request) : Except String ListParameters :=
  (Form.parameters r.queryText).foldlM (fun p (name, value) => p.put name value) {}

end ListParameters

/-! ### Bodies -/

/-- The greatest number of bytes in a body. -/
def bodyLimit : Nat := 2097152

/-- Whether a request says that its body is JSON. -/
def hasJsonBody (r : Request) : Bool :=
  match (r.headerText? "content-type").bind MediaType.parse? with
  | some m => m.isJson
  | none => false

/-- The wording of a body that cannot be read. -/
def bodyFailure (failure : Json.Failure) : String :=
  match failure.cause with
  | .grammar _ => "Failed to parse the request body as JSON: " ++ failure.locatedMessage
  | .shape _ =>
    "Failed to deserialize the JSON body into the target type: " ++ failure.locatedMessage

/-- The body of a request to delete contacts.  Its bytes must be text.  What follows the value is
not looked at. -/
def deletionBody (r : Request) : Except Fault Deletion.Body :=
  if !hasJsonBody r then .error (.invalid "Expected request with `Content-Type: application/json`")
  else if bodyLimit < r.body.length then
    .error (.invalid "Failed to buffer the request body: length limit exceeded")
  else
    match Text.Utf8.decode? r.body with
    | none =>
      .error (.invalid "Failed to parse the request body as JSON: invalid unicode code point")
    | some text =>
      match Json.decodeFront Deletion.Body.decoder text with
      | .ok (body, _) => .ok body
      | .error failure => .error (.invalid (bodyFailure failure))

/-! ### Paths -/

/-- The paths that are served. -/
inductive Route where
  | health
  | contacts
  | bulkDelete
  deriving DecidableEq, Repr

namespace Route

/-- The text of a path. -/
def path : Route → String
  | health => "/health"
  | contacts => "/v1/contacts"
  | bulkDelete => "/v1/contacts/bulk-delete"

/-- All paths. -/
def all : List Route := [health, contacts, bulkDelete]

/-- The path of a text, which has to be the same. -/
def ofPath? (path : String) : Option Route := all.find? fun r => r.path == path

/-- The methods of a path. -/
def methods : Route → List String
  | health | contacts => ["GET", "HEAD"]
  | bulkDelete => ["POST"]

/-- The header that tells the methods of a path. -/
def allowHeader (r : Route) : String × String := ("allow", String.intercalate "," r.methods)

end Route

/-! ### Answers -/

/-- Lists the contacts of an organisation. -/
def listContacts (b : Book) (exposeDetails : Bool) (today : Int) (tenant : String)
    (p : ListParameters) : Response :=
  let contacts := do
    let filter ← b.policy.parseParameter p.filters
    b.list today tenant filter p.search
  match contacts with
  | .ok contacts => jsonResponse 200 (.array (contacts.map Contact.json))
  | .error f => faultResponse exposeDetails f

/-- The answer to a deletion that succeeded. -/
def deletedResponse (outcome : Deletion.Outcome) : Response :=
  let count (n : Nat) : Json.Value := .number (.integer n)
  jsonResponse 200 <| .object
    [("message", .string ("Successfully deleted " ++ toString outcome.deleted ++ " contacts")),
      ("deletedCount", count outcome.deleted), ("invalidCount", count outcome.invalid)]

/-- Deletes contacts of an organisation. -/
def bulkDelete (b : Book) (exposeDetails : Bool) (today : Int) (tenant : String) (r : Request) :
    Response × Book :=
  match deletionBody r >>= Deletion.Body.request b.policy with
  | .error f => (faultResponse exposeDetails f, b)
  | .ok request =>
    match b.delete today tenant request with
    | (.ok outcome, b) => (deletedResponse outcome, b)
    | (.error f, b) => (faultResponse exposeDetails f, b)

/-- Answers a request to a path by a method that it has. -/
def answer (b : Book) (exposeDetails : Bool) (today : Int) (route : Route) (r : Request) :
    Response × Book :=
  match route with
  | .health => (textResponse 200 "ok", b)
  | .contacts =>
    match tenant? r with
    | none => (faultResponse false .unauthenticated, b)
    | some tenant =>
      match ListParameters.ofRequest r with
      | .error name =>
        (textResponse 400 ("Failed to deserialize query string: duplicate field `" ++ name ++ "`"),
          b)
      | .ok p => (listContacts b exposeDetails today tenant p, b)
  | .bulkDelete =>
    match tenant? r with
    | none => (faultResponse false .unauthenticated, b)
    | some tenant => bulkDelete b exposeDetails today tenant r

/-- The headers of every response. -/
def commonHeaders : List (String × String) :=
  [("access-control-allow-origin", "*"),
    ("vary", "origin, access-control-request-method, access-control-request-headers")]

/-- The response to the question what is allowed. -/
def optionsResponse (route : Option Route) : Response :=
  ⟨200, [("access-control-allow-methods", "GET,POST"), ("access-control-allow-headers", "*")] ++
    (route.map Route.allowHeader).toList, ""⟩

/-- Answers a request by its path and its method. -/
def dispatch (b : Book) (exposeDetails : Bool) (today : Int) (r : Request) : Response × Book :=
  let route := Route.ofPath? r.path
  if r.method == "OPTIONS" then (optionsResponse route, b)
  else
    match route with
    | none => (⟨404, [], ""⟩, b)
    | some route =>
      if !route.methods.contains r.method then (⟨405, [route.allowHeader], ""⟩, b)
      else
        let (response, b) := answer b exposeDetails today route r
        (if r.method == "HEAD" then { response with body := "" } else response, b)

/-- The answer to a request that comes `today`, and the book that it leaves. -/
def serve (b : Book) (exposeDetails : Bool) (today : Int) (r : Request) : Response × Book :=
  let (response, b) := dispatch b exposeDetails today r
  ({ response with headers := commonHeaders ++ response.headers }, b)

end Http

end ContactBook
