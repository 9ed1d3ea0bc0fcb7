/-
**What is wrong with a JSON text.**

A text can fail in two ways.  It may break the grammar (`SyntaxFault`), or it may be well formed so
far and hold something of another shape than the one expected (`ShapeFault`).  A failure also says
where it arose, as the path of members and items that leads there.

Main definitions:

* `ContactBook.Json.SyntaxFault`, `ContactBook.Json.ShapeFault` — the two kinds of fault;
* `ContactBook.Json.Failure` — a fault and its place;
* `ContactBook.Json.Failure.message`, `ContactBook.Json.Failure.locatedMessage` — the wording.
-/

import ContactBook.Json.Printer
import ContactBook.Text.Quoted

set_option autoImplicit false

namespace ContactBook.Json

/-- A break of the grammar. -/
inductive SyntaxFault where
  | unfinishedValue
  | unfinishedList
  | unfinishedObject
  | unfinishedString
  | expectedValue
  | expectedColon
  | expectedListEnd
  | expectedObjectEnd
  | misspelledWord
  | trailingComma
  | trailingCharacters
  | keyNotString
  | invalidNumber
  | numberOutOfRange
  | invalidEscape
  | loneLowSurrogate
  | loneHighSurrogate
  | controlCharacter
  | tooDeep
  deriving DecidableEq, Repr

/-- The wording of a break of the grammar. -/
def SyntaxFault.message : SyntaxFault → String
  | .unfinishedValue => "EOF while parsing a value"
  | .unfinishedList => "EOF while parsing a list"
  | .unfinishedObject => "EOF while parsing an object"
  | .unfinishedString => "EOF while parsing a string"
  | .expectedValue => "expected value"
  | .expectedColon => "expected `:`"
  | .expectedListEnd => "expected `,` or `]`"
  | .expectedObjectEnd => "expected `,` or `\x7d`"
  | .misspelledWord => "expected ident"
  | .trailingComma => "trailing comma"
  | .trailingCharacters => "trailing characters"
  | .keyNotString => "key must be a string"
  | .invalidNumber => "invalid number"
  | .numberOutOfRange => "number out of range"
  | .invalidEscape => "invalid escape"
  | .loneLowSurrogate => "lone leading surrogate in hex escape"
  | .loneHighSurrogate => "unexpected end of hex escape"
  | .controlCharacter => "control character (\\u0000-\\u001F) found while parsing a string"
  | .tooDeep => "recursion limit exceeded"

/-- What was found where something else was expected. -/
inductive Found where
  | null
  | bool (b : Bool)
  | number (n : Number)
  | string (s : String)
  | sequence
  | map
  deriving DecidableEq, Repr

/-- The wording of what was found. -/
def Found.message : Found → String
  | .null => "null"
  | .bool true => "boolean `true`"
  | .bool false => "boolean `false`"
  | .number (.integer i) => "integer `" ++ String.ofList (integerChars i) ++ "`"
  | .number (.double x) => "floating point `" ++ String.ofList (doubleChars x) ++ "`"
  | .string s => "string " ++ Text.quoted s
  | .sequence => "sequence"
  | .map => "map"

/-- A value of another shape than the one expected. -/
inductive ShapeFault where
  | invalidType (found : Found) (expected : String)
  | unknownVariant (name : String) (known : List String)
  | duplicateField (name : String)
  | invalidLength (length : Nat) (expected : String)
  deriving DecidableEq, Repr

/-- The wording of a wrong shape. -/
def ShapeFault.message : ShapeFault → String
  | .invalidType found expected =>
    "invalid type: " ++ found.message ++ ", expected " ++ expected
  | .unknownVariant name known =>
    "unknown variant `" ++ name ++ "`, expected one of " ++
      String.intercalate ", " (known.map fun k => "`" ++ k ++ "`")
  | .duplicateField name => "duplicate field `" ++ name ++ "`"
  | .invalidLength length expected =>
    "invalid length " ++ toString length ++ ", expected " ++ expected

/-- A fault of either kind. -/
inductive Cause where
  | grammar (fault : SyntaxFault)
  | shape (fault : ShapeFault)
  deriving DecidableEq, Repr

/-- The wording of a fault. -/
def Cause.message : Cause → String
  | .grammar fault => fault.message
  | .shape fault => fault.message

/-- One step of the way to a place in a value.  The name of a member is unknown while it is being
read. -/
inductive Step where
  | item (index : Nat)
  | member (name : String)
  | unknownMember
  deriving DecidableEq, Repr

/-- A fault and the way from the whole value to the place where it arose. -/
structure Failure where
  path : List Step
  cause : Cause
  deriving DecidableEq, Repr

namespace Failure

/-- The same failure, seen from one step further out. -/
def under (step : Step) (f : Failure) : Failure := ⟨step :: f.path, f.cause⟩

/-- The wording without the place. -/
def message (f : Failure) : String := f.cause.message

/-- The text of a path: members are joined by points, items stand in brackets. -/
def pathText : List Step → String
  | [] => ""
  | step :: rest =>
    let head := match step with
      | .item i => "[" ++ toString i ++ "]"
      | .member name => name
      | .unknownMember => "?"
    let joint := match rest with
      | [] | .item _ :: _ => ""
      | _ => "."
    head ++ joint ++ pathText rest

/-- The wording with the place in front, if it leads anywhere known. -/
def locatedMessage (f : Failure) : String :=
  if f.path.all (· == .unknownMember) then f.message
  else pathText f.path ++ ": " ++ f.message

end Failure

example : Failure.pathText [.member "a", .item 0, .member "b"] = "a[0].b" := by decide +kernel

end ContactBook.Json
