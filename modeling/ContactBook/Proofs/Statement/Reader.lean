/-
**Reading the condition of a statement.**

The store is asked with a text: a condition in a language of its own, in which contacts go by the
name `c` and values by their numbers.  This module reads such a text and says how a condition comes
out for a contact.  It knows the words and signs of the language, that a conjunction binds closer
than a disjunction, where names come from, and the three truth values.  It reads a part of the
language only, but that part without regard to who wrote it; any other text is refused.

Main definitions:

* `ContactBook.Statement.Expression`, `ContactBook.Statement.Value` — conditions, and what they
  compare;
* `ContactBook.Statement.Expression.truth` — **how a condition comes out** for a contact;
* `ContactBook.Statement.scan`, `ContactBook.Statement.expression?` — the words of a text, and the
  condition that words make up;
* `ContactBook.Statement.read?` — **the condition that a text is**.
-/

import ContactBook.Query.Answer

set_option autoImplicit false

namespace ContactBook.Statement

/-! ### Conditions -/

/-- What a condition compares: a column of a row, a value by its number, or the day of either. -/
inductive Value where
  | column (row name : String)
  | bound (number : Nat)
  | date (v : Value)
  deriving DecidableEq, Repr

/-- A condition.  The last kind asks whether two tables, each under a name, have rows that are
joined and meet a condition. -/
inductive Expression where
  | equals (a b : Value)
  | like (a b : Value)
  | and (a b : Expression)
  | or (a b : Expression)
  | exists (table row table' row' : String) (joined condition : Expression)
  deriving DecidableEq, Repr

/-- What is kept in a column, or made of it. -/
inductive Cell where
  | null
  | text (s : String)
  | number (n : Nat)
  | day (n : Int)
  deriving DecidableEq, Repr

/-- A row: what is kept in the column of a name, if there is one. -/
abbrev Row := String → Option Cell

/-- What may be missing as a cell. -/
def Cell.ofText? : Option String → Cell
  | some s => .text s
  | none => .null

/-- What may be missing as a cell of days. -/
def Cell.ofDay? : Option Int → Cell
  | some n => .day n
  | none => .null

/-- A contact as a row. -/
def contactRow (r : Record) : Row :=
  fun name => (Column.named? name).map fun column => .ofText? (r.text? column)

/-- A link as a row. -/
def linkRow (l : Link) : Row
  | "contactId" => some (.text l.contactId)
  | "tagId" => some (.number l.tagId)
  | _ => none

/-- A tag as a row. -/
def tagRow (t : Tag) : Row
  | "id" => some (.number t.id)
  | "organizationId" => some (.text t.organizationId)
  | "name" => some (.text t.name)
  | _ => none

/-- The rows of a table. -/
def table? (s : Store) : String → Option (List Row)
  | "Contact" => some (s.contacts.map contactRow)
  | "ContactTag" => some (s.links.map linkRow)
  | "Tag" => some (s.tags.map tagRow)
  | _ => none

/-- The day of a cell. -/
def Cell.date? (today : Int) : Cell → Option Cell
  | .null => some .null
  | .text s => some (.ofDay? (Calendar.dayOf? today s))
  | .number _ | .day _ => none

/-- Whether two cells are equal, if they can be compared. -/
def Cell.equals? : Cell → Cell → Option Truth
  | .null, _ | _, .null => some .unknown
  | .text a, .text b => some (.ofBool (a == b))
  | .number a, .number b => some (.ofBool (a == b))
  | .day a, .day b => some (.ofBool (a == b))
  | _, _ => none

/-- Whether a cell matches a pattern. -/
def Cell.like? : Cell → Cell → Option Truth
  | .null, _ | _, .null => some .unknown
  | .text a, .text pattern => some (.ofBool (Text.Pattern.accepts pattern a))
  | _, _ => none

section

variable (s : Store) (today : Int) (params : List String)

/-- The cell that a value stands for.  Numbers count from one; behind the last value all are
missing. -/
def Value.cell? (rows : List (String × Row)) : Value → Option Cell
  | .column row name => (rows.lookup row).bind fun cells => cells name
  | .bound 0 => none
  | .bound (n + 1) => some (.ofText? params[n]?)
  | .date v => (v.cell? rows).bind (Cell.date? today)

/-- Whether something is true of some row of a table and some row of another. -/
def someJoined? (table table' : String) (asked : Row → Row → Option Truth) : Option Truth := do
  let first ← table? s table
  let second ← table? s table'
  let found ← (first.flatMap fun cells => second.map (asked cells)).mapM id
  return .ofBool (found.any Truth.holds)

/-- **How a condition comes out** for rows under their names, if it makes sense. -/
def Expression.truth? : List (String × Row) → Expression → Option Truth
  | rows, .equals a b => do
    Cell.equals? (← a.cell? today params rows) (← b.cell? today params rows)
  | rows, .like a b => do Cell.like? (← a.cell? today params rows) (← b.cell? today params rows)
  | rows, .and a b => return (← a.truth? rows).and (← b.truth? rows)
  | rows, .or a b => return (← a.truth? rows).or (← b.truth? rows)
  | rows, .exists table row table' row' joined condition =>
    someJoined? s table table' fun cells cells' => do
      let inner := (row, cells) :: (row', cells') :: rows
      return (← joined.truth? inner).and (← condition.truth? inner)

/-- How a condition comes out for a contact. -/
def Expression.truth (e : Expression) (r : Record) : Option Truth :=
  e.truth? s today params [("c", contactRow r)]

end

/-! ### Words -/

/-- A word or a sign of a text. -/
inductive Token where
  | word (s : String)
  | name (s : String)
  | literal (s : String)
  | bound (number : Nat)
  | sign (c : Char)
  deriving DecidableEq, Repr

/-- What has begun at some place of a text. -/
inductive Begun where
  | nothing
  | word (cs : List Char)
  | name (cs : List Char)
  | literal (cs : List Char)
  | bound (digits : List Char)
  deriving DecidableEq, Repr

/-- The signs of the language. -/
def signs : List Char := ['=', '.', '(', ')']

/-- The quotation marks around names and around texts. -/
def nameMark : Char := '"'
def textMark : Char := '\x27'

/-- What begins with a character. -/
def begin? (c : Char) : Option (List Token × Begun) :=
  if c == ' ' then some ([], .nothing)
  else if c.isAlphanum then some ([], .word [c])
  else if c == nameMark then some ([], .name [])
  else if c == textMark then some ([], .literal [])
  else if c == '?' then some ([], .bound [])
  else if signs.contains c then some ([.sign c], .nothing)
  else none

/-- The same after a token. -/
def begin?After (t : Token) (c : Char) : Option (List Token × Begun) :=
  (begin? c).map fun (ts, b) => (t :: ts, b)

/-- One character more: the tokens that it completes, and what has begun by then. -/
def step? (b : Begun) (c : Char) : Option (List Token × Begun) :=
  match b with
  | .nothing => begin? c
  | .word cs =>
    if c.isAlphanum then some ([], .word (cs ++ [c]))
    else begin?After (.word (String.ofList cs)) c
  | .name cs =>
    if c == nameMark then some ([.name (String.ofList cs)], .nothing)
    else some ([], .name (cs ++ [c]))
  | .literal cs =>
    if c == textMark then some ([.literal (String.ofList cs)], .nothing)
    else some ([], .literal (cs ++ [c]))
  | .bound digits =>
    if c.isDigit then some ([], .bound (digits ++ [c]))
    else if digits.isEmpty then none
    else begin?After (.bound (Decimal.numberOf digits)) c

/-- What the end of a text completes. -/
def end? : Begun → Option (List Token)
  | .nothing => some []
  | .word cs => some [.word (String.ofList cs)]
  | .name _ | .literal _ => none
  | .bound digits => if digits.isEmpty then none else some [.bound (Decimal.numberOf digits)]

/-- Some characters more. -/
def steps? (b : Begun) : List Char → Option (List Token × Begun)
  | [] => some ([], b)
  | c :: cs => do
    let (ts, b) ← step? b c
    let (ts', b) ← steps? b cs
    return (ts ++ ts', b)

/-- The tokens of the rest of a text. -/
def scan (b : Begun) (cs : List Char) : Option (List Token) := do
  let (ts, b) ← steps? b cs
  return ts ++ (← end? b)

/-! ### Reading -/

/-- Reads a column or the number of a value. -/
def operand? : List Token → Option (Value × List Token)
  | .word row :: .sign '.' :: .name column :: rest => some (.column row column, rest)
  | .bound number :: rest => some (.bound number, rest)
  | _ => none

/-- Reads what can be compared. -/
def value? : List Token → Option (Value × List Token)
  | .word "date" :: .sign '(' :: rest => do
    match ← operand? rest with
    | (v, .sign ')' :: rest) => some (.date v, rest)
    | _ => none
  | ts => operand? ts

/-- Reads a comparison. -/
def comparison? (ts : List Token) : Option (Expression × List Token) := do
  match ← value? ts with
  | (a, .sign '=' :: rest) => do
    let (b, rest) ← value? rest
    some (.equals a b, rest)
  | (a, .word "LIKE" :: rest) => do
    match ← value? rest with
    | (b, .word "ESCAPE" :: .literal "\\" :: rest) => some (.like a b, rest)
    | _ => none
  | _ => none

/-- Reads conditions on with a word between any two, `count` at most. -/
def more? (read : List Token → Option (Expression × List Token)) (word : String)
    (join : Expression → Expression → Expression) :
    Nat → Expression → List Token → Option (Expression × List Token)
  | count + 1, e, .word w :: rest =>
    if w = word then do
      let (e', rest) ← read rest
      more? read word join count (join e e') rest
    else some (e, .word w :: rest)
  | _, e, ts => some (e, ts)

/-- Reads conditions with a word between any two as one. -/
def chain? (read : List Token → Option (Expression × List Token)) (word : String)
    (join : Expression → Expression → Expression) (ts : List Token) :
    Option (Expression × List Token) := do
  let (e, rest) ← read ts
  more? read word join rest.length e rest

/-- Reads a condition in parentheses, a question about joined rows, or a comparison.  Within the
first two conditions are read by `inner`. -/
def primary? (inner : List Token → Option (Expression × List Token)) :
    List Token → Option (Expression × List Token)
  | .sign '(' :: rest => do
    match ← inner rest with
    | (e, .sign ')' :: rest) => some (e, rest)
    | _ => none
  | .word "EXISTS" :: .sign '(' :: .word "SELECT" :: .word "1" :: .word "FROM" :: .name table ::
      .word row :: .word "JOIN" :: .name table' :: .word row' :: .word "ON" :: rest => do
    match ← inner rest with
    | (joined, .word "WHERE" :: rest) => do
      match ← inner rest with
      | (condition, .sign ')' :: rest) =>
        some (.exists table row table' row' joined condition, rest)
      | _ => none
    | _ => none
  | ts => comparison? ts

/-- Reads a condition, nested no deeper than `depth`: disjunctions of conjunctions. -/
def expression? : Nat → List Token → Option (Expression × List Token)
  | 0, _ => none
  | depth + 1, ts =>
    chain? (chain? (primary? (expression? depth)) "AND" .and) "OR" .or ts

/-- **The condition that a text is**, if it is one. -/
def read? (text : String) : Option Expression := do
  let ts ← scan .nothing text.toList
  match ← expression? text.length ts with
  | (e, []) => some e
  | _ => none

example : read? "c.\"a\" = ?1 OR (c.\"b\" LIKE ?22 ESCAPE '\\') AND date(c.\"d\") = date(?3)" =
    some (.or (.equals (.column "c" "a") (.bound 1))
      (.and (.like (.column "c" "b") (.bound 22))
        (.equals (.date (.column "c" "d")) (.date (.bound 3))))) := by decide +kernel
example : read? "c.\"a\" = ?1 AND" = none := by decide +kernel

end ContactBook.Statement
