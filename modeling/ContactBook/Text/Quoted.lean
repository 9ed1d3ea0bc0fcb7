/-
**Quoted text in messages.**

A message shows a text between double quotes, on one line and without ambiguity: quotes, backslashes
and the common controls are written with a backslash, and characters without a shape of their own by
their number.

Main definition:

* `ContactBook.Text.quoted` — the quoted form.
-/

import ContactBook.Text.Unprintable

set_option autoImplicit false

namespace ContactBook.Text

/-- One character of a quoted text. -/
def quotedChar (c : Char) : List Char :=
  if c == '"' then ['\\', '"']
  else if c == '\\' then ['\\', '\\']
  else if c == '\n' then ['\\', 'n']
  else if c == '\r' then ['\\', 'r']
  else if c == '\t' then ['\\', 't']
  else if c == '\x00' then ['\\', '0']
  else if isUnprintable c then
    ['\\', 'u', Char.ofNat 0x7B] ++ Nat.toDigits 16 c.toNat ++ [Char.ofNat 0x7D]
  else [c]

/-- A text between double quotes, as messages show it. -/
def quoted (s : String) : String :=
  String.ofList ('"' :: s.toList.flatMap quotedChar ++ ['"'])

example : quoted "a\"b\n" = "\"a\\\"b\\n\"" := by decide +kernel
example : quoted "é\u200B" = "\"é\\u\x7b200b\x7d\"" := by decide +kernel

end ContactBook.Text
