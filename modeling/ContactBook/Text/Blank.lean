/-
**Blank characters, and trimming them.**

A character is *blank* when it has the Unicode property `White_Space`; the property has twenty-five
members and they are listed here in full.  Search terms, filter texts, organisation headers and
store locations are all trimmed by this one rule, so a no-break space is blank and a zero-width
space is not.

Main definitions:

* `ContactBook.Text.isBlank` — the property;
* `ContactBook.Text.trim` — a text without the blank characters at its two ends.
-/

set_option autoImplicit false

namespace ContactBook.Text

/-- The characters with the Unicode property `White_Space`. -/
def isBlank (c : Char) : Bool :=
  let n := c.toNat
  (0x09 ≤ n && n ≤ 0x0D) || n == 0x20 || n == 0x85 || n == 0xA0 || n == 0x1680 ||
    (0x2000 ≤ n && n ≤ 0x200A) || n == 0x2028 || n == 0x2029 || n == 0x202F || n == 0x205F ||
    n == 0x3000

/-- The characters of a text between its first and its last character that is not blank. -/
def trimChars (cs : List Char) : List Char :=
  ((cs.dropWhile isBlank).reverse.dropWhile isBlank).reverse

/-- A text without the blank characters at its two ends. -/
def trim (s : String) : String := String.ofList (trimChars s.toList)

@[simp] theorem toList_trim (s : String) : (trim s).toList = trimChars s.toList := by
  simp [trim]

example : trim " \u00A0a b\u3000\n" = "a b" := by decide +kernel
example : trim "\u200Bx\uFEFF" = "\u200Bx\uFEFF" := by decide +kernel

end ContactBook.Text
