/-
**Requests and responses.**

A request has a method, a target, headers and a body, which is any bytes; a response has a status,
headers and a body, which is text.
Header names are compared without regard to case, and where a name comes more than once the first
value counts.

Main definitions:

* `ContactBook.Http.Request`, `ContactBook.Http.Response` — the messages;
* `ContactBook.Http.Request.header?` — the value of a header;
* `ContactBook.Http.Request.path`, `ContactBook.Http.Request.queryText` — the parts of the target.
-/

import ContactBook.Text.Blank

set_option autoImplicit false

namespace ContactBook.Http

/-- A request. -/
structure Request where
  method : String
  target : String
  headers : List (String × String)
  body : List UInt8

/-- A response. -/
structure Response where
  status : Nat
  headers : List (String × String)
  body : String
  deriving DecidableEq, Repr

/-- A text with its capital ASCII letters made small. -/
def small (s : String) : String := String.ofList (s.toList.map Char.toLower)

namespace Request

/-- The value of a header. -/
def header? (r : Request) (name : String) : Option String :=
  (r.headers.find? fun h => small h.1 == name).map Prod.snd

/-- Whether a character may stand in a header that is read as text. -/
def isHeaderText (c : Char) : Bool := (0x20 ≤ c.toNat && c.toNat ≤ 0x7E) || c == '\t'

/-- The value of a header, if it is text. -/
def headerText? (r : Request) (name : String) : Option String :=
  (r.header? name).filter fun value => value.toList.all isHeaderText

/-! ### Targets -/

/-- The part of a target that follows the name of a host, if it has one. -/
def afterHost : List Char → List Char
  | [] => []
  | '/' :: rest => '/' :: rest
  | ':' :: '/' :: '/' :: rest => rest.dropWhile fun c => c != '/' && c != '?' && c != '#'
  | _ :: rest => afterHost rest

/-- The target without the name of a host and without a fragment. -/
def localTarget (r : Request) : List Char :=
  (afterHost r.target.toList).takeWhile (· != '#')

/-- The path of the target; it is never empty. -/
def path (r : Request) : String :=
  match r.localTarget.takeWhile (· != '?') with
  | [] => "/"
  | cs => String.ofList cs

/-- The part of the target after its question mark. -/
def queryText (r : Request) : List Char := (r.localTarget.dropWhile (· != '?')).drop 1

end Request

example : (Request.mk "GET" "/a/b?c=d#e" [] []).path = "/a/b" := by decide +kernel
example : (Request.mk "GET" "http://h:1/a?c#e" [] []).queryText = ['c'] := by decide +kernel

end ContactBook.Http
