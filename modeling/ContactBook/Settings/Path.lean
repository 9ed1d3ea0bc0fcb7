/-
**Places inside values.**

A source may set a place inside the value of a key: after the key, a point leads to a member of a
table and a number in brackets to an item of a list.  Tables and lists are made on the way as they
are needed, in place of whatever else stands there; a list grows to hold the item, and a negative
number counts from its end.  A table that is set somewhere is merged into the table that stands
there, member by member.

Main definitions:

* `ContactBook.Settings.Path` — a key and the steps from its value to a place inside;
* `ContactBook.Settings.Path.ofText` — reading one;
* `ContactBook.Settings.Value.setAt` — a value with another one set at a place inside.
-/

import ContactBook.Decimal.Natural
import ContactBook.Settings.Value

set_option autoImplicit false

namespace ContactBook.Settings

/-- One step into a value: to a member of a table or to an item of a list. -/
inductive Step where
  | member (name : String)
  | item (index : Int)
  deriving DecidableEq, Repr

/-- A key and the steps from its value to a place inside. -/
structure Path where
  key : String
  steps : List Step
  deriving DecidableEq, Repr

/-! ### Reading paths -/

namespace Path

/-- Whether a character may stand in a name. -/
def isNameChar (c : Char) : Bool := c.isAlphanum || c == '_' || c == '-'

/-- Reads a name. -/
def name? (cs : List Char) : Option (String × List Char) :=
  let name := cs.takeWhile isNameChar
  if name.isEmpty then none else some (String.ofList name, cs.dropWhile isNameChar)

/-- Whether a character is a blank, which may stand around the number of an item. -/
def isBlank (c : Char) : Bool := c == ' ' || c == '\t'

/-- Reads the number of an item and the bracket after it.  The number fits 64 bits with a sign. -/
def index? (cs : List Char) : Option (Int × List Char) :=
  let cs := cs.dropWhile isBlank
  let (negative, cs) := match cs with
    | '-' :: rest => (true, rest)
    | _ => (false, cs)
  let digits := cs.takeWhile Char.isDigit
  let n : Int := Decimal.numberOf digits
  let index := if negative then -n else n
  match (cs.dropWhile Char.isDigit).dropWhile isBlank with
  | ']' :: rest =>
    if digits.isEmpty || index < -Int.pow 2 63 || Int.pow 2 63 ≤ index then none
    else some (index, rest)
  | _ => none

/-- Reads the steps that are left, in a bounded number of them. -/
def steps? : Nat → List Char → Option (List Step)
  | _, [] => some []
  | 0, _ => none
  | fuel + 1, c :: rest =>
    if c == '.' then do
      let (name, rest) ← name? rest
      return .member name :: (← steps? fuel rest)
    else if c == '[' then do
      let (index, rest) ← index? rest
      return .item index :: (← steps? fuel rest)
    else none

/-- The path that a text is.  A text that is not written as one is a key as a whole. -/
def ofText (text : String) : Path :=
  let path? : Option Path := do
    let (key, rest) ← name? text.toList
    return ⟨key, ← steps? rest.length rest⟩
  path?.getD ⟨text, []⟩

end Path

/-! ### Setting values -/

/-- The member of a table, or nothing. -/
def memberOf (name : String) (entries : List (String × Value)) : Value :=
  ((entries.find? fun e => e.1 == name).map Prod.snd).getD .nothing

/-- A table with another value for a member. -/
def withMember (name : String) (v : Value) (entries : List (String × Value)) :
    List (String × Value) :=
  if entries.any fun e => e.1 == name then
    entries.map fun e => if e.1 == name then (name, v) else e
  else entries ++ [(name, v)]

/-- A list that is long enough to hold an item, and the place of that item in it. -/
def grown (index : Int) (items : List Value) : List Value × Nat :=
  let n := index.natAbs
  if 0 ≤ index then (items ++ List.replicate (n + 1 - items.length) .nothing, n)
  else (List.replicate (n - items.length) .nothing ++ items, items.length - n)

namespace Value

/-- The entries of a table; other values have none. -/
def entries : Value → List (String × Value)
  | .table entries => entries
  | _ => []

/-- The items of a list; other values have none. -/
def items : Value → List Value
  | .list items => items
  | _ => []

mutual

/-- A value with another one set in its place. -/
def merge (old : Value) : Value → Value
  | .table entries => .table (mergeEntries old.entries entries)
  | new => new

/-- The entries of a table with others set in it. -/
def mergeEntries (old : List (String × Value)) : List (String × Value) → List (String × Value)
  | [] => old
  | entry :: rest => mergeEntries (mergeEntry old entry) rest

/-- The entries of a table with another one set in it. -/
def mergeEntry (old : List (String × Value)) : String × Value → List (String × Value)
  | (name, new) => withMember name (merge (memberOf name old) new) old

end

/-- A value with another one set at a place inside. -/
def setAt (old : Value) (new : Value) : List Step → Value
  | [] => old.merge new
  | .member name :: steps =>
    .table (withMember name (setAt (memberOf name old.entries) new steps) old.entries)
  | .item index :: steps =>
    let (items, i) := grown index old.items
    .list (items.set i (setAt (items.getD i .nothing) new steps))

end Value

/-- A value with another one, from some place, set inside.  A table or a list that is changed inside
keeps the place that it comes from, and one that is made has none. -/
def Sourced.setAt (old : Sourced) (origin : String) (new : Value) (steps : List Step) : Sourced :=
  let v := old.value.setAt new steps
  match steps, old.value, v with
  | _, .table _, .table _ => ⟨v, old.origin⟩
  | _ :: _, .list _, .list _ => ⟨v, old.origin⟩
  | _ :: _, _, _ => ⟨v, none⟩
  | [], _, .table _ => ⟨v, none⟩
  | [], _, _ => ⟨v, some origin⟩

example : Path.ofText "a.b[-1]" = ⟨"a", [.member "b", .item (-1)]⟩ := by decide +kernel
example : Path.ofText "a[0" = ⟨"a[0", []⟩ := by decide +kernel

end ContactBook.Settings
