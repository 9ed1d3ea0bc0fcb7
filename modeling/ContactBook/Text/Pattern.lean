/-
**Patterns with wildcards.**

A pattern is a text in which `%` stands for any run of characters, `_` for any one character, and
a backslash takes the next character literally.  Letters of the ASCII alphabet are compared without
regard to case, all other characters exactly.

Values given by users never act as wildcards: `escape` puts a backslash before each of the three
special characters, and the three templates place the escaped value at the start, at the end or
anywhere.  Three limits of the comparison are part of the rule: a text and a pattern end at their
first NUL, the two noncharacters U+FFFE and U+FFFF are read as the replacement character, and a
pattern of more than `Pattern.sizeLimit` bytes is refused before it is compared.

Main definitions:

* `ContactBook.Text.Pattern.escape` — a value written so that it matches literally;
* `ContactBook.Text.Pattern.containing`, `startingWith`, `endingWith` — the three templates;
* `ContactBook.Text.Pattern.accepts` — whether a text matches a pattern.
-/

set_option autoImplicit false

namespace ContactBook.Text.Pattern

/-! ### Writing patterns -/

/-- The character that takes the next one literally. -/
def escapeMark : Char := '\\'

/-- The characters that a pattern does not take literally. -/
def isSpecial (c : Char) : Bool := c == '%' || c == '_' || c == escapeMark

/-- A value written as a pattern that matches it literally. -/
def escapeChars (cs : List Char) : List Char :=
  cs.flatMap fun c => if isSpecial c then [escapeMark, c] else [c]

/-- A value written as a pattern that matches it literally. -/
def escape (value : String) : String := String.ofList (escapeChars value.toList)

/-- The pattern of the texts that contain `value`. -/
def containing (value : String) : String := "%" ++ escape value ++ "%"

/-- The pattern of the texts that start with `value`. -/
def startingWith (value : String) : String := escape value ++ "%"

/-- The pattern of the texts that end with `value`. -/
def endingWith (value : String) : String := "%" ++ escape value

/-! ### Matching -/

/-- What the comparison sees of a character: the last two characters of the basic plane are read
as the replacement character, and capital ASCII letters as small ones. -/
def seen (c : Char) : Char :=
  if c == '\uFFFE' || c == '\uFFFF' then '\uFFFD' else c.toLower

/-- Whether some end of a text, the text itself and the empty text included, satisfies `p`. -/
def anyEnd (p : List Char → Bool) : List Char → Bool
  | [] => p []
  | c :: cs => p (c :: cs) || anyEnd p cs

/-- Whether the characters of a text match those of a pattern.  A backslash at the very end of a
pattern matches nothing. -/
def acceptsChars : List Char → List Char → Bool
  | [], text => text.isEmpty
  | p :: ps, text =>
    if p = '%' then anyEnd (acceptsChars ps) text
    else if p = '_' then
      match text with
      | [] => false
      | _ :: cs => acceptsChars ps cs
    else if p = escapeMark then
      match ps with
      | [] => false
      | q :: qs =>
        match text with
        | [] => false
        | c :: cs => seen q == seen c && acceptsChars qs cs
    else
      match text with
      | [] => false
      | c :: cs => seen p == seen c && acceptsChars ps cs

/-- The characters before the first NUL. -/
def untilNul (cs : List Char) : List Char := cs.takeWhile (· != '\x00')

/-- Whether a text matches a pattern. -/
def accepts (pattern text : String) : Bool :=
  acceptsChars (untilNul pattern.toList) (untilNul text.toList)

/-- The greatest number of bytes in a pattern that is compared. -/
def sizeLimit : Nat := 50000

/-- Whether a pattern is too large to be compared. -/
def tooLarge (pattern : String) : Bool := sizeLimit < pattern.utf8ByteSize

example : accepts (containing "50%") "at 50% off" = true := by decide +kernel
example : accepts (containing "50%") "at 500 off" = false := by decide +kernel
example : accepts (startingWith "ada") "Ada Lovelace" = true := by decide +kernel
example : accepts (endingWith "É") "é" = false := by decide +kernel

end ContactBook.Text.Pattern
