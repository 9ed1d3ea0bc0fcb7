/-
**Forms in targets.**

The part of a target after the question mark holds parameters, separated by ampersands; a name and
a value are separated by the first equals sign.  A plus sign stands for a space, and a percent sign
with two hexadecimal digits for a byte; one without them stands for itself.

Main definitions:

* `ContactBook.Http.Form.decode` — the text that a name or a value stands for;
* `ContactBook.Http.Form.parameters` — the parameters of a form.
-/

import ContactBook.Json.Lexer
import ContactBook.Text.Utf8

set_option autoImplicit false

namespace ContactBook.Http.Form

/-- The bytes that characters stand for. -/
def bytes : List Char → List UInt8
  | [] => []
  | '%' :: a :: b :: rest =>
    match Json.hexValue? a, Json.hexValue? b with
    | some m, some n => UInt8.ofNat (m * 16 + n) :: bytes rest
    | _, _ => 0x25 :: bytes (a :: b :: rest)
  | c :: rest =>
    if c == '+' then 0x20 :: bytes rest else String.utf8EncodeChar c ++ bytes rest

/-- The text that characters stand for; bytes that are no text become replacement characters. -/
def decode (cs : List Char) : String := String.ofList (Text.Utf8.decode (bytes cs))

/-- The parts of a text between its ampersands. -/
def parts (cs : List Char) : List (List Char) := cs.splitOnP (· == '&')

/-- The name and the value of a parameter. -/
def parameter (cs : List Char) : String × String :=
  (decode (cs.takeWhile (· != '=')), decode ((cs.dropWhile (· != '=')).drop 1))

/-- The parameters of a form, in order. -/
def parameters (cs : List Char) : List (String × String) :=
  ((parts cs).filter fun part => !part.isEmpty).map parameter

example : parameters "a=b+c&&d=%41%zz&e".toList = [("a", "b c"), ("d", "A%zz"), ("e", "")] := by
  decide +kernel

end ContactBook.Http.Form
