/-
**Text as UTF-8 bytes.**

Percent-encoded text names bytes, and those bytes need not be well-formed UTF-8.  `decode` reads
any sequence of bytes: each longest start of a character that does not go on as one becomes a
single replacement character, so decoding never fails and never loses the characters around a
damaged one.  Where damage is not put up with, `decode?` reads only bytes that are those of a text.

Main definitions:

* `ContactBook.Text.Utf8.encode` — the bytes of a text;
* `ContactBook.Text.Utf8.decode` — the text that a sequence of bytes stands for;
* `ContactBook.Text.Utf8.decode?` — the text whose bytes they are.
-/

set_option autoImplicit false

namespace ContactBook.Text.Utf8

/-- The bytes of a text. -/
def encode (cs : List Char) : List UInt8 := cs.flatMap String.utf8EncodeChar

/-- What stands for bytes that are no character. -/
def replacement : Char := '\uFFFD'

/-- Characters without the mark that may stand at the very start of a file. -/
def withoutMark (cs : List Char) : List Char :=
  match cs with
  | '\uFEFF' :: rest => rest
  | _ => cs

/-- The bytes that may follow a first byte: the least and the greatest second byte, and how many
bytes follow in all.  The narrow ranges keep out overlong forms, surrogates and numbers above the
last code point. -/
def continuation? (b : UInt8) : Option (UInt8 × UInt8 × Nat) :=
  if 0xC2 ≤ b && b ≤ 0xDF then some (0x80, 0xBF, 1)
  else if b == 0xE0 then some (0xA0, 0xBF, 2)
  else if b == 0xED then some (0x80, 0x9F, 2)
  else if 0xE1 ≤ b && b ≤ 0xEF then some (0x80, 0xBF, 2)
  else if b == 0xF0 then some (0x90, 0xBF, 3)
  else if 0xF1 ≤ b && b ≤ 0xF3 then some (0x80, 0xBF, 3)
  else if b == 0xF4 then some (0x80, 0x8F, 3)
  else none

/-- Whether a byte continues a character. -/
def isContinuation (b : UInt8) : Bool := 0x80 ≤ b && b ≤ 0xBF

/-- The six low bits that a continuation byte carries. -/
def payload (b : UInt8) : Nat := b.toNat - 0x80

/-- The text that a sequence of bytes stands for, with a replacement character for each part that
is not well formed. -/
def decode : List UInt8 → List Char
  | [] => []
  | b :: bs =>
    if b < 0x80 then Char.ofNat b.toNat :: decode bs
    else
      match bs, continuation? b with
      | [], _ => [replacement]
      | c :: cs, none => replacement :: decode (c :: cs)
      | c :: cs, some (lo, hi, n) =>
        if !(lo ≤ c && c ≤ hi) then replacement :: decode (c :: cs)
        else if n == 1 then Char.ofNat ((b.toNat - 0xC0) * 64 + payload c) :: decode cs
        else
          match cs with
          | [] => [replacement]
          | d :: ds =>
            if !isContinuation d then replacement :: decode (d :: ds)
            else if n == 2 then
              Char.ofNat (((b.toNat - 0xE0) * 64 + payload c) * 64 + payload d) :: decode ds
            else
              match ds with
              | [] => [replacement]
              | e :: es =>
                if !isContinuation e then replacement :: decode (e :: es)
                else
                  Char.ofNat ((((b.toNat - 0xF0) * 64 + payload c) * 64 + payload d) * 64 +
                    payload e) :: decode es

/-- The text whose bytes a sequence of bytes is, if there is one. -/
def decode? (bs : List UInt8) : Option (List Char) :=
  let cs := decode bs
  if encode cs == bs then some cs else none

example : decode (encode "aé日🙂".toList) = "aé日🙂".toList := by decide +kernel
example : decode [0xFF, 0x61, 0xE2, 0x82] = [replacement, 'a', replacement] := by decide +kernel
example : decode? (encode "aé日🙂\uFFFD".toList) = some "aé日🙂\uFFFD".toList := by decide +kernel
example : decode? [0x61, 0xE2, 0x82] = none := by decide +kernel

end ContactBook.Text.Utf8
