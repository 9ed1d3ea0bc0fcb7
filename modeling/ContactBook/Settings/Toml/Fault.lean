/-
**What is wrong with a TOML document.**

A document may break the grammar or define something twice; a key in it may have too many parts; or
a number that is well formed as a word may have no value.  Numbers are looked at last, when the
whole document has been read.

Main definitions:

* `ContactBook.Settings.Toml.NumberFault` — why a number has no value;
* `ContactBook.Settings.Toml.Fault` — why a document cannot be used.
-/

set_option autoImplicit false

namespace ContactBook.Settings.Toml

/-- Why a number has no value. -/
inductive NumberFault where
  | tooLarge
  | tooSmall
  | noDigits
  | invalidDigit
  | infinite
  deriving DecidableEq, Repr

/-- The wording of what is wrong with a number. -/
def NumberFault.message : NumberFault → String
  | .tooLarge => "number too large to fit in target type"
  | .tooSmall => "number too small to fit in target type"
  | .noDigits => "cannot parse integer from empty string"
  | .invalidDigit => "invalid digit found in string"
  | .infinite => "floating-point number overflowed"

/-- Why a document cannot be used. -/
inductive Fault where
  | malformed
  | longKey
  | number (fault : NumberFault)
  deriving DecidableEq, Repr

/-- The wording for a document in a file, which is named only if the document is well formed. -/
def Fault.message (file : String) : Fault → String
  | .malformed => "TOML parse error"
  | .longKey => "recursion limit"
  | .number fault => fault.message ++ " in " ++ file

end ContactBook.Settings.Toml
