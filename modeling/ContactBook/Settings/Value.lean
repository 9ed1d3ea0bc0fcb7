/-
**Values in settings.**

Settings come from files and from the environment, and are written in different ways: a text may
stand there as a number, a switch as a word.  What is asked for is a text, a switch or one of a few
words, and a value is converted as far as that makes sense.

Main definitions:

* `ContactBook.Settings.Value`, `ContactBook.Settings.Real` — the values that sources hold;
* `ContactBook.Settings.Fault` — why a source, or a value, cannot be used;
* `ContactBook.Settings.Sourced.toText`, `toSwitch`, `toWord` — the conversions.
-/

import ContactBook.Decimal.Shortest
import ContactBook.Json.Error
import ContactBook.Settings.Toml.Fault
import ContactBook.Text.Lowercase
import ContactBook.Text.Quoted

set_option autoImplicit false

namespace ContactBook.Settings

open Decimal (Binary64)

/-- A floating-point number that may also be infinite or no number at all. -/
inductive Real where
  | finite (x : Binary64)
  | infinite (negative : Bool)
  | notANumber
  deriving DecidableEq, Repr

/-- A value that a source holds. -/
inductive Value where
  | nothing
  | switch (b : Bool)
  | integer (i : Int)
  | real (x : Real)
  | text (s : String)
  | list (items : List Value)
  | table (entries : List (String × Value))

/-! ### Faults -/

/-- What a value is, where another kind was expected. -/
inductive Kind where
  | nothing
  | switch (b : Bool)
  | integer (i : Int)
  | real (x : Real)
  | text (s : String)
  | list
  | table
  deriving DecidableEq, Repr

/-- Why the settings cannot be loaded. -/
inductive Fault where
  | toml (fault : Toml.Fault) (file : String)
  | json (failure : Json.Failure) (file : String)
  | notTable (found : Kind) (file : String)
  | mismatch (found : Kind) (expected key : String) (origin : Option String)
  | unknownWord (type word key : String)
  | notWord (type key : String)
  deriving DecidableEq, Repr

/-- The text of a number: the fewest digits that read back, the greater ones of two equally near,
with a point where it is needed and never an exponent. -/
def Real.chars : Real → List Char
  | .finite x =>
    let digits := if x.isZero then ['0'] else (x.magnitude.shortest .up).positional
    if x.negative then '-' :: digits else digits
  | .infinite negative => if negative then ['-', 'i', 'n', 'f'] else ['i', 'n', 'f']
  | .notANumber => ['N', 'a', 'N']

/-- Whether a number is zero. -/
def Real.isZero : Real → Bool
  | .finite x => x.isZero
  | _ => false

/-- The text of a number. -/
def Real.text (x : Real) : String := String.ofList x.chars

/-- The word for a switch. -/
def switchText (b : Bool) : String := if b then "true" else "false"

/-- The text of a whole number. -/
def integerText (i : Int) : String := String.ofList (Json.integerChars i)

/-- The wording of what a value is.  Whole numbers that need all 64 bits have no sign. -/
def Kind.message : Kind → String
  | .nothing => "unit value"
  | .switch b => "boolean `" ++ switchText b ++ "`"
  | .integer i =>
    (if i < Int.pow 2 63 then "64-bit integer `" else "64-bit unsigned integer `") ++
      integerText i ++ "`"
  | .real x => "floating point `" ++ x.text ++ "`"
  | .text s => "string " ++ Text.quoted s
  | .list => "sequence"
  | .table => "map"

/-- The wording of a fault. -/
def Fault.message : Fault → String
  | .toml fault file => fault.message file
  | .json failure file => failure.message ++ " in " ++ file
  | .notTable found file =>
    "invalid type: " ++ found.message ++ ", expected a map in " ++ file ++ " in " ++ file
  | .mismatch found expected key origin =>
    "invalid type: " ++ found.message ++ ", expected " ++ expected ++ " for key `" ++ key ++ "`" ++
      (match origin with
      | some origin => " in " ++ origin
      | none => "")
  | .unknownWord type word key =>
    "enum " ++ type ++ " does not have variant constructor " ++ word ++ " for key `" ++ key ++ "`"
  | .notWord type key =>
    "value of enum " ++ type ++ " should be represented by either string or table with exactly " ++
      "one key for key `" ++ key ++ "`"

/-! ### Conversions -/

/-- A value with the place it comes from, if one place can be named. -/
structure Sourced where
  value : Value
  origin : Option String

namespace Value

/-- What a value is. -/
def kind : Value → Kind
  | .nothing => .nothing
  | .switch b => .switch b
  | .integer i => .integer i
  | .real x => .real x
  | .text s => .text s
  | .list _ => .list
  | .table _ => .table

/-- The text that a value stands for. -/
def toText? : Value → Option String
  | .text s => some s
  | .switch b => some (switchText b)
  | .integer i => some (integerText i)
  | .real x => some x.text
  | .nothing | .list _ | .table _ => none

/-- The position of the switch that a word names. -/
def switchOfWord? (word : String) : Option Bool :=
  if ["1", "true", "on", "yes"].contains word then some true
  else if ["0", "false", "off", "no"].contains word then some false
  else none

/-- The position of the switch that a value stands for: numbers are on unless they are zero. -/
def toSwitch? : Value → Option Bool
  | .switch b => some b
  | .integer i => some (i != 0)
  | .real x => some (!x.isZero)
  | .text s => switchOfWord? (Text.lowercase s)
  | .nothing | .list _ | .table _ => none

end Value

namespace Sourced

/-- The text for a key. -/
def toText (key : String) (s : Sourced) : Except Fault String :=
  match s.value.toText? with
  | some text => .ok text
  | none => .error (.mismatch s.value.kind "a string" key s.origin)

/-- The position of a switch for a key.  A word that names none is shown in small letters. -/
def toSwitch (key : String) (s : Sourced) : Except Fault Bool :=
  match s.value.toSwitch?, s.value with
  | some b, _ => .ok b
  | none, .text word => .error (.mismatch (.text (Text.lowercase word)) "a boolean" key s.origin)
  | none, v => .error (.mismatch v.kind "a boolean" key s.origin)

/-- One of the words of a type, for a key.  A table with one key counts as that key. -/
def toWord {α : Type} (type : String) (words : List (String × α)) (key : String) (s : Sourced) :
    Except Fault α :=
  let find (word : String) : Except Fault α :=
    match words.find? fun w => w.1 == word with
    | some (_, a) => .ok a
    | none => .error (.unknownWord type word key)
  match s.value with
  | .text word => find word
  | .table [(word, _)] => find word
  | _ => .error (.notWord type key)

end Sourced

end ContactBook.Settings
