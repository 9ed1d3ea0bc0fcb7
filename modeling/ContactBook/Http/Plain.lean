/-
**Messages as they are sent.**

A request begins with a line that names method and target.  Lines with headers follow, up to an
empty line; after it comes the body, whose size one of the headers tells.  A response is sent in the
same form, with the size of its body among its headers.

Main definitions:

* `ContactBook.Http.Head` — what comes before the body of a request;
* `ContactBook.Http.Head.ofLines?` — reading it;
* `ContactBook.Http.Head.withBody` — the request that head and body make;
* `ContactBook.Http.Response.plain` — a response as it is sent.
-/

import ContactBook.Decimal.Natural
import ContactBook.Http.Message

set_option autoImplicit false

namespace ContactBook.Http

/-! ### Requests -/

/-- What comes before the body of a request. -/
structure Head where
  method : String
  target : String
  headers : List (String × String)
  deriving DecidableEq, Repr

namespace Head

/-- The header of a line, which has a colon after the name. -/
def header? (line : String) : Option (String × String) :=
  match line.toList.span (· != ':') with
  | (_, []) => none
  | (name, _ :: value) => some (String.ofList name, Text.trim (String.ofList value))

/-- The head that lines make, if the first one names method and target.  A line without a colon is
passed over. -/
def ofLines? : List String → Option Head
  | [] => none
  | first :: rest =>
    match first.toList.splitOnP (· == ' ') with
    | [method, target, _] =>
      some ⟨String.ofList method, String.ofList target, rest.filterMap header?⟩
    | _ => none

/-- The request that a head makes with a body. -/
def withBody (h : Head) (body : List UInt8) : Request := ⟨h.method, h.target, h.headers, body⟩

/-- The number of bytes in the body, which is empty unless a header tells otherwise. -/
def bodySize (h : Head) : Nat :=
  match (h.withBody []).headerText? "content-length" with
  | some value =>
    if value.toList.all Char.isDigit then Decimal.numberOf value.toList else 0
  | none => 0

end Head

/-! ### Responses -/

/-- The words that go with a status. -/
def reason (status : Nat) : String :=
  match status with
  | 200 => "OK"
  | 400 => "Bad Request"
  | 401 => "Unauthorized"
  | 404 => "Not Found"
  | 405 => "Method Not Allowed"
  | _ => "Internal Server Error"

/-- A response as it is sent. -/
def Response.plain (r : Response) : String :=
  let lines := ("HTTP/1.1 " ++ Nat.repr r.status ++ " " ++ reason r.status) ::
    (r.headers ++ [("content-length", Nat.repr r.body.utf8ByteSize)]).map fun (name, value) =>
      name ++ ": " ++ value
  String.join (lines.map (· ++ "\r\n")) ++ "\r\n" ++ r.body

example : Head.ofLines? ["POST /a HTTP/1.1", "Content-Length: 12"] =
    some ⟨"POST", "/a", [("Content-Length", "12")]⟩ := by decide +kernel
example : (Head.mk "POST" "/a" [("Content-Length", "12")]).bodySize = 12 := by decide +kernel
example : (Response.mk 200 [] "ok").plain = "HTTP/1.1 200 OK\r\ncontent-length: 2\r\n\r\nok" := by
  decide +kernel

end ContactBook.Http
