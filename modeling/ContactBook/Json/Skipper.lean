/-
**Skipping a JSON value.**

The value of a member that nobody asked for is read past without being built.  Skipping checks the
grammar, but not what only matters for a value that is kept: numbers may be out of range, escapes
may name half a character, and brackets may nest to any depth.

Main definition:

* `ContactBook.Json.skipValue` — the rest of a text after the value it begins with.
-/

import ContactBook.Json.Lexer

set_option autoImplicit false

namespace ContactBook.Json

/-- The rest of a text after the string whose opening quote has been read. -/
def skipString : Nat → List Char → Except SyntaxFault (List Char)
  | 0, _ => .error .unfinishedString
  | _ + 1, [] => .error .unfinishedString
  | size + 1, c :: rest =>
    if c == '"' then .ok rest
    else if c == '\\' then
      match rest with
      | [] => .error .unfinishedString
      | d :: rest =>
        if d == 'u' then
          match readHex rest with
          | .ok (_, rest) => skipString size rest
          | .error fault => .error fault
        else if (shortEscape? d).isSome then skipString size rest
        else .error .invalidEscape
    else if c.toNat < 0x20 then .error .controlCharacter
    else skipString size rest

/-- A bracket that is open while a value is skipped. -/
inductive Bracket where
  | list
  | object

/-- What is looked for while a value is skipped: a value, or what may follow one.  A comma may not
follow an opening bracket. -/
inductive Expecting where
  | value
  | more (afterValue : Bool)

/-- The rest of a text after the name of a member and its colon. -/
def skipName (size : Nat) (cs : List Char) : Except SyntaxFault (List Char) :=
  match skipSpace cs with
  | [] => .error .unfinishedObject
  | '"' :: rest => do
    let rest ← skipString (size + 1) rest
    match skipSpace rest with
    | [] => .error .unfinishedObject
    | ':' :: rest => return rest
    | _ => .error .expectedColon
  | _ => .error .keyNotString

/-- The rest of a text after a scalar, or after an opening bracket and with that bracket. -/
def skipScalar (size : Nat) (cs : List Char) :
    Except SyntaxFault (Option Bracket × List Char) :=
  match skipSpace cs with
  | [] => .error .unfinishedValue
  | c :: rest =>
    if c == 'n' then (readWord ['u', 'l', 'l'] rest).map (none, ·)
    else if c == 't' then (readWord ['r', 'u', 'e'] rest).map (none, ·)
    else if c == 'f' then (readWord ['a', 'l', 's', 'e'] rest).map (none, ·)
    else if c == '-' then (readNumeral .invalidNumber rest).map fun (_, rest) => (none, rest)
    else if c.isDigit then
      (readNumeral .invalidNumber (c :: rest)).map fun (_, rest) => (none, rest)
    else if c == '"' then (skipString (size + 1) rest).map (none, ·)
    else if c == '[' then .ok (some .list, rest)
    else if c == '{' then .ok (some .object, rest)
    else .error .expectedValue

/-- Skips until all brackets of `stack` are closed, in a bounded number of steps. -/
def skipFrom (size : Nat) :
    Nat → Expecting → List Bracket → List Char → Except SyntaxFault (List Char)
  | 0, _, _, _ => .error .unfinishedValue
  | fuel + 1, .value, stack, cs =>
    match skipScalar size cs with
    | .error fault => .error fault
    | .ok (none, rest) => skipFrom size fuel (.more true) stack rest
    | .ok (some bracket, rest) => skipFrom size fuel (.more false) (bracket :: stack) rest
  | _ + 1, .more _, [], cs => .ok cs
  | fuel + 1, .more afterValue, bracket :: stack, cs =>
    let next (cs : List Char) : Except SyntaxFault (List Char) :=
      match bracket with
      | .list => skipFrom size fuel .value (.list :: stack) cs
      | .object =>
        match skipName size cs with
        | .error fault => .error fault
        | .ok rest => skipFrom size fuel .value (.object :: stack) rest
    match skipSpace cs, bracket with
    | [], .list => .error .unfinishedList
    | [], .object => .error .unfinishedObject
    | ']' :: rest, .list => skipFrom size fuel (.more true) stack rest
    | '}' :: rest, .object => skipFrom size fuel (.more true) stack rest
    | c :: rest, _ =>
      if !afterValue then next (c :: rest)
      else if c == ',' then next rest
      else
        match bracket with
        | .list => .error .expectedListEnd
        | .object => .error .expectedObjectEnd

/-- The rest of a text after the value it begins with.  Each character takes at most two steps. -/
def skipValue (size : Nat) (cs : List Char) : Except SyntaxFault (List Char) :=
  skipFrom size (2 * size + 2) .value [] cs

end ContactBook.Json
