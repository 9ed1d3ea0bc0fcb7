/-
**TOML documents.**

A document is a list of lines.  A line with a key and a value puts the value into the table at hand;
a line with a key in brackets makes another table the one at hand, and one with double brackets adds
a table to a list of tables.  Tables are made on the way as they are needed.  Nothing can be defined
twice, and a table that was written down as a value cannot be extended.

Reading stops at the first place where the text goes wrong.  Only when all of it is read are the
numbers without a value looked for, in the order of the keys of each table.

Main definition:

* `ContactBook.Settings.Toml.parse` — the table that a document is.
-/

import ContactBook.Settings.Toml.Scalar
import ContactBook.Text.Utf8

set_option autoImplicit false

namespace ContactBook.Settings.Toml

/-! ### Tables under construction -/

/-- What a key stands for: a value; a table, which may have been defined by a line of its own; a
table that was made by the points of a key; or a list of tables, the last one first. -/
inductive Node where
  | value (v : Converted)
  | table (defined : Bool) (entries : List (String × Node))
  | dotted (entries : List (String × Node))
  | tables (last : List (String × Node)) (others : List (List (String × Node)))

/-- The entries of a table. -/
abbrev Entries := List (String × Node)

/-- A list of values, if all have one. -/
def listOf (items : List Converted) : Converted := do
  let values ← items.mapM id
  return .list values

/-- Puts an entry before the first one with a greater key. -/
def insertEntry (e : String × Converted) : List (String × Converted) → List (String × Converted)
  | [] => [e]
  | f :: rest => if e.1 < f.1 then e :: f :: rest else f :: insertEntry e rest

/-- A table of values in the order of the keys, if all have one. -/
def tableOf (entries : List (String × Converted)) : Converted := do
  let ordered := entries.foldr insertEntry []
  let values ← ordered.mapM fun (key, v) => v.map fun v => (key, v)
  return .table values

mutual

/-- The value that a key stands for. -/
def Node.finish : Node → Converted
  | .value v => v
  | .table _ entries => tableOf (finishEntries entries)
  | .dotted entries => tableOf (finishEntries entries)
  | .tables last others => listOf (finishTables others ++ [tableOf (finishEntries last)])

/-- The entries of a table as values. -/
def finishEntries : List (String × Node) → List (String × Converted)
  | [] => []
  | entry :: rest => finishEntry entry :: finishEntries rest

/-- An entry of a table as a value. -/
def finishEntry : String × Node → String × Converted
  | (key, node) => (key, node.finish)

/-- Tables as values, the last one first. -/
def finishTables : List (List (String × Node)) → List Converted
  | [] => []
  | entries :: rest => finishTables rest ++ [tableOf (finishEntries entries)]

end

/-- What a key stands for in a table. -/
def find? (key : String) (entries : Entries) : Option Node :=
  (entries.find? fun e => e.1 == key).map Prod.snd

/-- A table with another node for a key that it has. -/
def replace (key : String) (node : Node) (entries : Entries) : Entries :=
  entries.map fun e => if e.1 == key then (key, node) else e

/-- Changes the table that a path leads to, making tables on the way.  The points of a key do not
lead into a table that has a line of its own, except as the last of a list.  What changes the table
is told whether points have made it. -/
def descend? (byPoints : Bool) (change : Bool → Entries → Option Entries) :
    List String → Bool → Entries → Option Entries
  | [], madeByPoints, entries => change madeByPoints entries
  | key :: path, _, entries =>
    match find? key entries with
    | none => do
      let inner ← descend? byPoints change path byPoints []
      some (entries ++ [(key, if byPoints then .dotted inner else .table false inner)])
    | some (.table defined inner) =>
      if byPoints && defined then none
      else do
        let inner ← descend? byPoints change path false inner
        some (replace key (.table defined inner) entries)
    | some (.dotted inner) => do
      let inner ← descend? byPoints change path true inner
      some (replace key (.dotted inner) entries)
    | some (.tables last others) => do
      let last ← descend? byPoints change path false last
      some (replace key (.tables last others) entries)
    | some (.value _) => none

/-- Puts a value into a table, under a key that may have points.  A key with points ends in a table
that points have made. -/
def put? (key : List String) (v : Converted) (entries : Entries) : Option Entries :=
  let path := key.dropLast
  descend? true (fun madeByPoints entries =>
    match key.getLast? with
    | none => none
    | some last =>
      if madeByPoints == path.isEmpty || (find? last entries).isSome then none
      else some (entries ++ [(last, .value v)]))
    path false entries

/-- Defines the table of a line in brackets. -/
def define? (key : List String) (entries : Entries) : Option Entries :=
  descend? false (fun _ entries =>
    match key.getLast? with
    | none => none
    | some last =>
      match find? last entries with
      | none => some (entries ++ [(last, .table true [])])
      | some (.table false inner) => some (replace last (.table true inner) entries)
      | some _ => none)
    key.dropLast false entries

/-- Adds the table of a line in double brackets. -/
def extend? (key : List String) (entries : Entries) : Option Entries :=
  descend? false (fun _ entries =>
    match key.getLast? with
    | none => none
    | some last =>
      match find? last entries with
      | none => some (entries ++ [(last, .tables [] [])])
      | some (.tables table others) => some (replace last (.tables [] (table :: others)) entries)
      | some _ => none)
    key.dropLast false entries

/-! ### Reading -/

/-- What was found, without which the document is malformed. -/
def required {α : Type} : Option α → Except Fault α
  | some a => .ok a
  | none => .error .malformed

/-- The greatest number of parts that a key may have. -/
def greatestKeyLength : Nat := 80

/-- Reads a key of not too many parts. -/
def key (cs : List Char) : Except Fault (List String × List Char) := do
  let (parts, rest) ← required (key? cs)
  if greatestKeyLength < parts.length then .error .longKey else .ok (parts, rest)

/-- Reads the rest of a comment, which has only plain characters. -/
def comment? (cs : List Char) : Option (List Char) :=
  match cs with
  | '#' :: rest =>
    match rest.dropWhile isPlain with
    | [] => some []
    | more => if (lineEnd? more).isSome then some more else none
  | _ => some cs

/-- Reads on past spaces, ends of lines and comments, in a bounded number of steps. -/
def skipBlankFrom? : Nat → List Char → Option (List Char)
  | 0, _ => none
  | fuel + 1, cs => do
    let cs ← comment? (skipSpace cs)
    match lineEnd? cs with
    | some rest => skipBlankFrom? fuel rest
    | none => some cs

/-- Reads on past spaces, ends of lines and comments. -/
def skipBlank (cs : List Char) : Except Fault (List Char) :=
  required (skipBlankFrom? (cs.length + 1) cs)

/-- Reads an equals sign. -/
def equals (cs : List Char) : Except Fault (List Char) :=
  match cs with
  | '=' :: rest => .ok rest
  | _ => .error .malformed

/-! ### Values -/

/-- How deep lists and tables that are written as values may nest. -/
def greatestDepth : Nat := 80

mutual

/-- Reads a value with at most the given number of nested brackets, in a bounded number of steps. -/
def value : Nat → Nat → List Char → Except Fault (Converted × List Char)
  | 0, _, _ => .error .malformed
  | fuel + 1, levels, cs =>
    match cs with
    | [] => .error .malformed
    | c :: rest =>
      if c == '"' || c == '\'' then
        (required (text? cs)).map fun (s, rest) => (.ok (.text s), rest)
      else if c == '[' then
        match levels with
        | 0 => .error .malformed
        | levels + 1 => items fuel levels [] rest
      else if c == '{' then
        match levels with
        | 0 => .error .malformed
        | levels + 1 => entries fuel levels [] rest
      else required (scalar? cs)

/-- Reads the items of a list that are left, and its end; `acc` holds those read, the last one
first. -/
def items : Nat → Nat → List Converted → List Char → Except Fault (Converted × List Char)
  | 0, _, _, _ => .error .malformed
  | fuel + 1, levels, acc, cs => do
    let cs ← skipBlank cs
    match cs with
    | ']' :: rest => .ok (listOf acc.reverse, rest)
    | _ =>
      let (v, cs) ← value fuel levels cs
      let cs ← skipBlank cs
      match cs with
      | ',' :: rest => items fuel levels (v :: acc) rest
      | ']' :: rest => .ok (listOf (v :: acc).reverse, rest)
      | _ => .error .malformed

/-- Reads the entries that are left of a table that is written as a value, and its end. -/
def entries : Nat → Nat → Entries → List Char → Except Fault (Converted × List Char)
  | 0, _, _, _ => .error .malformed
  | fuel + 1, levels, acc, cs => do
    let cs ← skipBlank cs
    match cs with
    | '}' :: rest => .ok (tableOf (finishEntries acc), rest)
    | _ =>
      let (key, cs) ← key cs
      let cs ← skipBlank (← equals (← skipBlank cs))
      let (v, cs) ← value fuel levels cs
      let acc ← required (put? key v acc)
      let cs ← skipBlank cs
      match cs with
      | ',' :: rest => entries fuel levels acc rest
      | '}' :: rest => .ok (tableOf (finishEntries acc), rest)
      | _ => .error .malformed

end

/-! ### Lines -/

/-- A document while it is read: all entries, and the path of the table at hand. -/
structure State where
  entries : Entries
  path : List String

/-- Reads the end of a line, after spaces and a comment; a document may end without. -/
def endOfLine (cs : List Char) : Except Fault (List Char) := do
  let cs ← required (comment? (skipSpace cs))
  if cs.isEmpty then .ok [] else required (lineEnd? cs)

/-- Reads a line. -/
def line (s : State) (cs : List Char) : Except Fault (State × List Char) :=
  match cs with
  | '[' :: '[' :: rest => do
    let (key, rest) ← key rest
    match rest with
    | ']' :: ']' :: rest => .ok (⟨← required (extend? key s.entries), key⟩, rest)
    | _ => .error .malformed
  | '[' :: rest => do
    let (key, rest) ← key rest
    match rest with
    | ']' :: rest => .ok (⟨← required (define? key s.entries), key⟩, rest)
    | _ => .error .malformed
  | _ => do
    let (key, rest) ← key cs
    let rest ← equals rest
    let (v, rest) ← value (rest.length + 1) greatestDepth (skipSpace rest)
    let entries ← required (descend? false (fun _ => put? key v) s.path false s.entries)
    .ok (⟨entries, s.path⟩, rest)

/-- Reads the lines that are left, in a bounded number of steps. -/
def lines : Nat → State → List Char → Except Fault State
  | 0, _, _ => .error .malformed
  | fuel + 1, s, cs => do
    let cs ← skipBlank cs
    if cs.isEmpty then .ok s
    else
      let (s, cs) ← line s cs
      lines fuel s (← endOfLine cs)

/-- The table that a document is. -/
def parse (text : String) : Except Fault Value := do
  let cs := Text.Utf8.withoutMark text.toList
  let s ← lines (cs.length + 1) ⟨[], []⟩ cs
  match tableOf (finishEntries s.entries) with
  | .ok v => .ok v
  | .error fault => .error (.number fault)

/-- What is wrong with a document, if anything. -/
def fault? (text : String) : Option Fault :=
  match parse text with
  | .ok _ => none
  | .error fault => some fault

example : fault? "a = 1 # one\n[b.c]\nd = [1,\n 2,]\n[[e]]\nf.g = \x7bh = 'i',\n\x7d" = none := by
  decide +kernel
example : fault? "a = 1\na = 2" = some .malformed := by decide +kernel
example : fault? "[a]\nb.c = 1\n[a.b]" = some .malformed := by decide +kernel
example : fault? "a = 1 b = 2" = some .malformed := by decide +kernel
example : fault? "a = 0x\nb = 1" = some (.number .noDigits) := by decide +kernel

end ContactBook.Settings.Toml
