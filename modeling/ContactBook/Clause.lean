/-
**Clauses with bound values.**

A clause is a piece of a statement: text, and references to values that travel beside it.  A value
is bound where it is first mentioned and may be referred to again.  Nobody writes the number of a
placeholder; `Clause.render` writes them all at the end, so that the numbers fit the list of values
whatever was appended to what.

Main definitions:

* `ContactBook.Clause`, `ContactBook.Piece` — clauses and what they consist of;
* `ContactBook.Clause.push`, `bind`, `rebind`, `bindList`, `append` — building a clause;
* `ContactBook.Clause.render` — its text, with numbered placeholders;
* `ContactBook.Clause.Edit`, `ContactBook.Clause.build` — clauses built by a list of edits.
-/

set_option autoImplicit false

namespace ContactBook

/-- A part of a clause: text, or a reference to the value with a given index. -/
inductive Piece where
  | text (s : String)
  | param (i : Nat)
  deriving DecidableEq, Repr

/-- A reference whose values were moved behind `offset` others. -/
def Piece.shift (offset : Nat) : Piece → Piece
  | .text s => .text s
  | .param i => .param (i + offset)

/-- A value that a clause has bound, by its index. -/
structure Slot where
  index : Nat
  deriving DecidableEq, Repr

/-- Text with references to the values `binds`. -/
structure Clause where
  pieces : List Piece := []
  binds : List String := []
  deriving DecidableEq, Repr

/-- A clause as a statement takes it: its text with placeholders numbered from one, and the value
of each. -/
structure Rendered where
  sql : String
  params : List String
  deriving DecidableEq, Repr

namespace Clause

/-! ### Building -/

/-- The clause without parts. -/
def empty : Clause := {}

/-- Whether a clause has no parts; a part may be empty text. -/
def isEmpty (c : Clause) : Bool := c.pieces.isEmpty

/-- How many values a clause has bound. -/
def paramCount (c : Clause) : Nat := c.binds.length

/-- Pieces after others; text that meets text becomes one piece with it. -/
def join : List Piece → List Piece → List Piece
  | [], q => q
  | [.text s], .text t :: q => .text (s ++ t) :: q
  | p :: rest, q => p :: join rest q

/-- A clause with text after it. -/
def push (c : Clause) (s : String) : Clause := { c with pieces := join c.pieces [.text s] }

/-- The slot that the next value to be bound will get. -/
def nextSlot (c : Clause) : Slot := ⟨c.binds.length⟩

/-- A clause with a new value bound at its end, in `c.nextSlot`. -/
def bind (c : Clause) (value : String) : Clause :=
  ⟨join c.pieces [.param c.nextSlot.index], c.binds ++ [value]⟩

/-- A clause with a reference at its end to a value that it has bound. -/
def rebind (c : Clause) (slot : Slot) : Clause :=
  { c with pieces := join c.pieces [.param slot.index] }

/-- A clause with values bound at its end, separated by commas. -/
def bindSeparated (c : Clause) : List String → Clause
  | [] => c
  | [value] => c.bind value
  | value :: rest => ((c.bind value).push ", ").bindSeparated rest

/-- A clause with values bound at its end, as a list in parentheses. -/
def bindList (c : Clause) (values : List String) : Clause :=
  ((c.push "(").bindSeparated values).push ")"

/-- A clause with another one after it, whose values come behind its own. -/
def append (c d : Clause) : Clause :=
  ⟨join c.pieces (d.pieces.map (Piece.shift c.binds.length)), c.binds ++ d.binds⟩

instance : Append Clause := ⟨append⟩

/-- A clause with a further condition after it, in parentheses; an empty one adds nothing. -/
def andGroup (c group : Clause) : Clause :=
  if group.isEmpty then c else ((c.push " AND (").append group).push ")"

/-! ### Writing -/

/-- The text of a part: a reference is written as a placeholder, counted from one. -/
def pieceText : Piece → String
  | .text s => s
  | .param i => "?" ++ Nat.repr (i + 1)

/-- A clause as a statement takes it. -/
def render (c : Clause) : Rendered := ⟨String.join (c.pieces.map pieceText), c.binds⟩

/-! ### Edits -/

/-- One edit of a clause.  `rebind n` refers to the value that the edit with number `n` among the
`bind`s of the same list has bound. -/
inductive Edit where
  | push (s : String)
  | bind (value : String)
  | rebind (n : Nat)
  | bindList (values : List String)
  | append (edits : List Edit)

mutual

/-- The clause and the slots of its `bind`s after one more edit.  A reference to a value that was
never bound changes nothing. -/
def edited (c : Clause) (slots : List Slot) : Edit → Clause × List Slot
  | .push s => (c.push s, slots)
  | .bind value => (c.bind value, slots ++ [c.nextSlot])
  | .rebind n =>
    match slots[n]? with
    | some slot => (c.rebind slot, slots)
    | none => (c, slots)
  | .bindList values => (c.bindList values, slots)
  | .append edits => (c.append (editedAll empty [] edits).1, slots)

/-- The clause and the slots of its `bind`s after a list of edits. -/
def editedAll (c : Clause) (slots : List Slot) : List Edit → Clause × List Slot
  | [] => (c, slots)
  | e :: rest =>
    let (c, slots) := edited c slots e
    editedAll c slots rest

end

/-- The clause that a list of edits builds. -/
def build (edits : List Edit) : Clause := (editedAll empty [] edits).1

example : (build [.push "a = ", .bind "x", .append [.push " AND b = ", .bind "y"]]).render =
    ⟨"a = ?1 AND b = ?2", ["x", "y"]⟩ := by decide +kernel

end Clause

end ContactBook
