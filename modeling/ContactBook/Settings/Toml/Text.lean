/-
**Texts and keys in TOML.**

A text stands between quotes, in four ways: between double quotes with escapes or between single
quotes without, and each on one line or, between three quotes, on several.  A key is a word of
letters, digits, underscores and hyphens, or a text on one line; points join keys.

Every reader takes the characters from the front of what is left, and returns the rest.

Main definitions:

* `ContactBook.Settings.Toml.text?` — reading a text;
* `ContactBook.Settings.Toml.key?` — reading a key with its points.
-/

import ContactBook.Json.Lexer

set_option autoImplicit false

namespace ContactBook.Settings.Toml

/-! ### Blanks -/

/-- Whether a character separates words on a line. -/
def isSpace (c : Char) : Bool := c == ' ' || c == '\t'

/-- Reads on past spaces. -/
def skipSpace (cs : List Char) : List Char := cs.dropWhile isSpace

/-- Whether a character may stand in a comment, or in a text as it is. -/
def isPlain (c : Char) : Bool := c == '\t' || (0x20 ≤ c.toNat && c.toNat != 0x7F)

/-- Reads the end of a line. -/
def lineEnd? : List Char → Option (List Char)
  | '\n' :: rest => some rest
  | '\r' :: '\n' :: rest => some rest
  | _ => none

/-! ### Texts -/

/-- Reads a character by its number, of as many hexadecimal digits as given. -/
def numbered? (digits : Nat) (cs : List Char) : Option (Char × List Char) := do
  let values ← (cs.take digits).mapM Json.hexValue?
  let n := values.foldl (fun n d => n * 16 + d) 0
  if values.length == digits && n.isValidChar then some (Char.ofNat n, cs.drop digits) else none

/-- Reads an escaped character after its backslash. -/
def escaped? (cs : List Char) : Option (Char × List Char) :=
  match cs with
  | [] => none
  | c :: rest =>
    if c == 'x' then numbered? 2 rest
    else if c == 'u' then numbered? 4 rest
    else if c == 'U' then numbered? 8 rest
    else if c == 'e' then some (Char.ofNat 0x1B, rest)
    else if c == '/' then none
    else (Json.shortEscape? c).map (·, rest)

/-- Reads a text on one line up to its closing quote; `acc` holds what was read, the last character
first. -/
def onLine? (quote : Char) : Nat → List Char → List Char → Option (List Char × List Char)
  | 0, _, _ => none
  | _ + 1, _, [] => none
  | fuel + 1, acc, c :: rest =>
    if c == quote then some (acc.reverse, rest)
    else if c == '\\' && quote == '"' then
      match escaped? rest with
      | some (d, rest) => onLine? quote fuel (d :: acc) rest
      | none => none
    else if isPlain c then onLine? quote fuel (c :: acc) rest
    else none

/-- Reads on past spaces and ends of lines. -/
def skipLines : Nat → List Char → List Char
  | 0, cs => cs
  | fuel + 1, cs =>
    match lineEnd? (skipSpace cs) with
    | some rest => skipLines fuel rest
    | none => skipSpace cs

/-- Reads a text on several lines up to its closing quotes, of which five in a row are the most: two
that belong to the text and three that close it.  Ends of lines stay as they are written; a
backslash before one joins the text to its next word. -/
def onLines? (quote : Char) : Nat → List Char → List Char → Option (List Char × List Char)
  | 0, _, _ => none
  | _ + 1, _, [] => none
  | fuel + 1, acc, c :: rest =>
    if c == quote then
      let run := (c :: rest).takeWhile (· == quote)
      if run.length < 3 then onLines? quote fuel (c :: acc) rest
      else
        let kept := min (run.length - 3) 2
        some ((List.replicate kept quote ++ acc).reverse, (c :: rest).drop (kept + 3))
    else if c == '\\' && quote == '"' then
      match lineEnd? (skipSpace rest) with
      | some more => onLines? quote fuel acc (skipLines fuel more)
      | none =>
        match escaped? rest with
        | some (d, rest) => onLines? quote fuel (d :: acc) rest
        | none => none
    else if isPlain c || (lineEnd? (c :: rest)).isSome then onLines? quote fuel (c :: acc) rest
    else none

/-- Reads a text on one line. -/
def lineText? (cs : List Char) : Option (String × List Char) :=
  match cs with
  | [] => none
  | quote :: rest =>
    if quote == '"' || quote == '\'' then
      (onLine? quote (rest.length + 1) [] rest).map fun (s, rest) => (String.ofList s, rest)
    else none

/-- Reads a text. -/
def text? (cs : List Char) : Option (String × List Char) :=
  match cs with
  | a :: b :: c :: rest =>
    if (a == '"' || a == '\'') && a == b && b == c then
      let inner := (lineEnd? rest).getD rest
      (onLines? a (inner.length + 1) [] inner).map fun (s, rest) => (String.ofList s, rest)
    else lineText? cs
  | _ => lineText? cs

/-! ### Keys -/

/-- Whether a character may stand in a key without quotes. -/
def isBare (c : Char) : Bool := c.isAlphanum || c == '_' || c == '-'

/-- Reads a part of a key. -/
def keyPart? (cs : List Char) : Option (String × List Char) :=
  match lineText? cs with
  | some found => some found
  | none =>
    let word := cs.takeWhile isBare
    if word.isEmpty then none else some (String.ofList word, cs.dropWhile isBare)

/-- Reads the parts of a key that follow its first ones, in a bounded number of steps. -/
def keyFrom? : Nat → List String → List Char → Option (List String × List Char)
  | 0, _, _ => none
  | fuel + 1, acc, cs =>
    match keyPart? (skipSpace cs) with
    | none => none
    | some (part, rest) =>
      match skipSpace rest with
      | '.' :: rest => keyFrom? fuel (part :: acc) rest
      | rest => some ((part :: acc).reverse, rest)

/-- Reads a key, as the list of its parts, and the spaces after it. -/
def key? (cs : List Char) : Option (List String × List Char) := keyFrom? (cs.length + 1) [] cs

example : key? "a . \"b.c\" = 1".toList = some (["a", "b.c"], "= 1".toList) := by decide +kernel
example : (text? "\"\"\"a\\\n  b\"\"\"\"".toList) = some ("ab\"", []) := by decide +kernel
example : (text? "\"\\x41\\e\"".toList) = some ("A\u001B", []) := by decide +kernel
example : (text? "'''\r\na\r\n'''".toList) = some ("a\r\n", []) := by decide +kernel
example : (text? "'a\\n'".toList) = some ("a\\n", []) := by decide +kernel

end ContactBook.Settings.Toml
