/-
**Media types.**

The header that names the kind of a body holds a type, a subtype and possibly parameters.  A subtype
may end in a suffix, after its last plus sign, that names the format underneath; a plus sign at the
very start of a subtype belongs to its name.

Main definitions:

* `ContactBook.Http.MediaType` — a media type;
* `ContactBook.Http.MediaType.parse?` — reading one;
* `ContactBook.Http.MediaType.isJson` — whether a body of that kind is JSON.
-/

import ContactBook.Http.Message

set_option autoImplicit false

namespace ContactBook.Http

/-- A type and a subtype, both in small letters. -/
structure MediaType where
  type : List Char
  subtype : List Char
  deriving DecidableEq, Repr

namespace MediaType

/-- Whether a character may stand in a name. -/
def isToken (c : Char) : Bool :=
  c.isAlphanum || ['!', '#', '$', '%', '&', '\'', '*', '+', '-', '.', '^', '_',
    Char.ofNat 0x60, '|', '~'].contains c

/-- Whether a character may stand between quotes. -/
def isQuotable (c : Char) : Bool := 0x20 ≤ c.toNat && c.toNat != 0x7F

/-- The rest of a text after a quoted value of one character or more, its quote, and spaces. -/
def afterQuoted? (cs : List Char) : Option (List Char) :=
  match cs with
  | [] => none
  | first :: rest =>
    let inner := rest.takeWhile (· != '"')
    if !isQuotable first || !inner.all isQuotable then none
    else
      match rest.dropWhile (· != '"') with
      | [] => none
      | _ :: rest => some (rest.dropWhile (· == ' '))

/-- The rest of a text after the value of a parameter, from its semicolon on.  A value without
quotes may only be empty at the end of the text. -/
def afterValue? (cs : List Char) : Option (List Char) :=
  match cs with
  | [] => some []
  | '"' :: rest => afterQuoted? rest
  | c :: rest => if isToken c then some (rest.dropWhile isToken) else none

/-- Whether a text consists of parameters, in a bounded number of steps. -/
def areParameters : Nat → List Char → Bool
  | 0, _ => false
  | fuel + 1, cs =>
    match cs.dropWhile (· == ' ') with
    | [] => true
    | c :: rest =>
      if !isToken c then false
      else
        match rest.dropWhile isToken with
        | '=' :: rest =>
          match afterValue? rest with
          | some [] => true
          | some (';' :: rest) => areParameters fuel rest
          | _ => false
        | _ => false

/-- Reads a media type. -/
def parse? (text : String) : Option MediaType :=
  let cs := text.toList
  let type := cs.takeWhile isToken
  match type, cs.dropWhile isToken with
  | _ :: _, '/' :: rest =>
    let subtype := rest.takeWhile isToken
    let result : MediaType := ⟨type.map Char.toLower, subtype.map Char.toLower⟩
    match rest.dropWhile isToken with
    | [] => some result
    | ';' :: more =>
      if !subtype.isEmpty && areParameters (more.length + 1) more then some result else none
    | _ => none
  | _, _ => none

/-- The part of a subtype before its last plus sign, and the part after it. -/
def splitSuffix (subtype : List Char) : List Char × Option (List Char) :=
  let suffix := (subtype.reverse.takeWhile (· != '+')).reverse
  if subtype.length ≤ suffix.length + 1 then (subtype, none)
  else (subtype.take (subtype.length - suffix.length - 1), some suffix)

/-- The name of the format JSON. -/
def json : List Char := ['j', 's', 'o', 'n']

/-- Whether a body of a kind is JSON. -/
def isJson (m : MediaType) : Bool :=
  let (name, suffix) := splitSuffix m.subtype
  m.type == "application".toList && (name == json || suffix == some json)

example : (parse? "Application/JSON; charset=utf-8").map isJson = some true := by decide +kernel
example : (parse? "application/problem+json").map isJson = some true := by decide +kernel
example : (parse? "application/+json").map isJson = some false := by decide +kernel
example : (parse? "application/++json").map isJson = some true := by decide +kernel
example : parse? "application/json ; a=b" = none := by decide +kernel
example : parse? "application/json; a=\"x y\" ; b=c;" = some ⟨"application".toList, json⟩ := by
  decide +kernel

end MediaType

end ContactBook.Http
