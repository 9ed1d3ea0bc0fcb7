/-
**JSON text.**

The compact text of a value: no blanks, members in the order in which the value keeps them, and only
those characters escaped that must be.  A floating-point number has the fewest digits that read
back, and of two equally near choices the even one; it is written with a point while its first digit
lies between the fifth place after the point and the sixteenth before it, and with an exponent
otherwise, so that it never looks like a whole number.

Main definitions:

* `ContactBook.Json.Number.chars` — the text of a number;
* `ContactBook.Json.quotedChars` — the text of a string;
* `ContactBook.Json.Value.render` — the text of a value.
-/

import ContactBook.Json.Value
import ContactBook.Decimal.Shortest

set_option autoImplicit false

namespace ContactBook.Json

open ContactBook.Decimal

/-! ### Numbers -/

/-- Where floating-point numbers are written with a point: the least and the greatest place of the
first digit. -/
structure PositionalRange where
  least : Int
  greatest : Int

/-- The places at which JSON text uses the point. -/
def positionalRange : PositionalRange := ⟨-5, 15⟩

/-- Digits with a point, or with an exponent where the point would be far away. -/
def digitsChars (d : Digits) : List Char :=
  if positionalRange.least ≤ d.place && d.place ≤ positionalRange.greatest then
    let text := d.positional
    if text.contains '.' then text else text ++ ['.', '0']
  else
    let fraction := d.digits.drop 1
    let mantissa := d.digits.take 1 ++ (if fraction.isEmpty then [] else '.' :: fraction)
    let sign := if d.place < 0 then '-' else '+'
    mantissa ++ 'e' :: sign :: (Nat.repr d.place.natAbs).toList

/-- The text of a floating-point number. -/
def doubleChars (x : Binary64) : List Char :=
  let text := if x.isZero then ['0', '.', '0'] else digitsChars (x.magnitude.shortest .even)
  if x.negative then '-' :: text else text

/-- The text of a whole number. -/
def integerChars : Int → List Char
  | .ofNat n => (Nat.repr n).toList
  | .negSucc n => '-' :: (Nat.repr (n + 1)).toList

/-- The text of a number. -/
def Number.chars : Number → List Char
  | .integer i => integerChars i
  | .double x => doubleChars x

/-! ### Strings -/

/-- A hexadecimal digit. -/
def hexDigit (n : Nat) : Char := if n < 10 then Char.ofNat (48 + n) else Char.ofNat (87 + n)

/-- One character of a string: quotes, backslashes and controls are escaped. -/
def escapedChar (c : Char) : List Char :=
  if c == '"' then ['\\', '"']
  else if c == '\\' then ['\\', '\\']
  else if c == '\n' then ['\\', 'n']
  else if c == '\r' then ['\\', 'r']
  else if c == '\t' then ['\\', 't']
  else if c.toNat == 0x08 then ['\\', 'b']
  else if c.toNat == 0x0C then ['\\', 'f']
  else if c.toNat < 0x20 then
    ['\\', 'u', '0', '0', hexDigit (c.toNat / 16), hexDigit (c.toNat % 16)]
  else [c]

/-- The text of a string. -/
def quotedChars (cs : List Char) : List Char := '"' :: cs.flatMap escapedChar ++ ['"']

/-! ### Values -/

mutual

/-- The text of a value. -/
def Value.chars : Value → List Char
  | .null => ['n', 'u', 'l', 'l']
  | .bool true => ['t', 'r', 'u', 'e']
  | .bool false => ['f', 'a', 'l', 's', 'e']
  | .number n => n.chars
  | .string s => quotedChars s.toList
  | .array [] => ['[', ']']
  | .array (v :: rest) => '[' :: (v.chars ++ itemsChars rest)
  | .object [] => ['{', '}']
  | .object (m :: rest) => '{' :: (memberChars m ++ membersChars rest)

/-- The items after the first, and the closing bracket. -/
def itemsChars : List Value → List Char
  | [] => [']']
  | v :: rest => ',' :: (v.chars ++ itemsChars rest)

/-- One member of an object. -/
def memberChars : String × Value → List Char
  | (name, v) => quotedChars name.toList ++ ':' :: v.chars

/-- The members after the first, and the closing brace. -/
def membersChars : List (String × Value) → List Char
  | [] => ['}']
  | m :: rest => ',' :: (memberChars m ++ membersChars rest)

end

/-- The compact text of a value. -/
def Value.render (v : Value) : String := String.ofList v.chars

@[simp] theorem Value.toList_render (v : Value) : v.render.toList = v.chars := by
  simp [Value.render]

example : (Value.ofMembers [("b", .number (.integer (-1))), ("a", .string "x\n")]).render =
    "\x7b\"a\":\"x\\n\",\"b\":-1\x7d" := by decide +kernel

end ContactBook.Json
