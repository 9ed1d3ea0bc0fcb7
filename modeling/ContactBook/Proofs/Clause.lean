/-
**The text of a clause.**

A clause is put together from pieces that merge where text meets text, and whose references move
whenever the clause comes behind another one.  Its text does not show any of this: the text of a
clause with another one after it is the text of the first and then the text of the second, written
as if its values stood behind those of the first.

Main definition:

* `ContactBook.Clause.textFrom` — the text of pieces whose values stand behind some others.

Main results:

* `ContactBook.Clause.textFrom_join` — pieces that are joined are written one after the other;
* `ContactBook.Clause.render_append` — so are clauses, and the values of the second come behind
  those of the first;
* `ContactBook.Clause.render_andGroup` — **a further condition is written in parentheses**.
-/

import ContactBook.Clause

set_option autoImplicit false

namespace ContactBook

/-! ### Moving references -/

@[simp] theorem Piece.shift_zero (p : Piece) : p.shift 0 = p := by cases p <;> rfl

@[simp] theorem Piece.shift_shift (p : Piece) (m n : Nat) :
    (p.shift m).shift n = p.shift (m + n) := by
  cases p with
  | text s => rfl
  | param i => simp [Piece.shift, Nat.add_assoc]

namespace Clause

variable {p q : List Piece}

/-- Text meets text in moved pieces where it does in the pieces themselves. -/
theorem map_shift_join (offset : Nat) (p q : List Piece) :
    (join p q).map (Piece.shift offset) =
      join (p.map (Piece.shift offset)) (q.map (Piece.shift offset)) := by
  fun_induction join p q with
  | case1 q => rfl
  | case2 s t q => rfl
  | case3 piece rest q hseam ih =>
      rw [List.map_cons, List.map_cons, ih]
      cases piece with
      | param i => rfl
      | text s =>
          cases rest with
          | cons r rest => rfl
          | nil =>
              cases q with
              | nil => rfl
              | cons r q =>
                  cases r with
                  | param i => rfl
                  | text t => exact (hseam s t q rfl rfl rfl).elim

/-- Joined pieces are there when either part is. -/
theorem join_eq_nil_iff : join p q = [] ↔ p = [] ∧ q = [] := by
  fun_induction join p q with
  | case1 q => simp
  | case2 s t q => simp
  | case3 piece rest q hseam ih => simp

/-! ### Text -/

/-- The text of pieces whose values stand behind `offset` others. -/
def textFrom (offset : Nat) (pieces : List Piece) : String :=
  String.join (pieces.map fun piece => pieceText (piece.shift offset))

@[simp] theorem textFrom_nil (offset : Nat) : textFrom offset [] = "" := rfl

@[simp] theorem textFrom_cons (offset : Nat) (piece : Piece) (rest : List Piece) :
    textFrom offset (piece :: rest) = pieceText (piece.shift offset) ++ textFrom offset rest := by
  simp [textFrom, String.join_cons]

theorem textFrom_append (offset : Nat) (p q : List Piece) :
    textFrom offset (p ++ q) = textFrom offset p ++ textFrom offset q := by
  induction p with
  | nil => simp
  | cons piece p ih => simp [ih, String.append_assoc]

/-- **Pieces that are joined are written one after the other.** -/
theorem textFrom_join (offset : Nat) (p q : List Piece) :
    textFrom offset (join p q) = textFrom offset p ++ textFrom offset q := by
  fun_induction join p q with
  | case1 q => simp
  | case2 s t q => simp [Piece.shift, pieceText, String.append_assoc]
  | case3 piece rest q hseam ih => simp [ih, String.append_assoc]

/-- Pieces that have moved are written as pieces behind more values. -/
theorem textFrom_map_shift (offset moved : Nat) (pieces : List Piece) :
    textFrom offset (pieces.map (Piece.shift moved)) = textFrom (moved + offset) pieces := by
  simp [textFrom, Function.comp_def]

theorem render_eq (c : Clause) : c.render = ⟨textFrom 0 c.pieces, c.binds⟩ := by
  simp [render, textFrom]

/-- **A clause with another one after it** is written as the one and then the other, whose values
come behind. -/
theorem render_append (c d : Clause) :
    (c.append d).render =
      ⟨c.render.sql ++ textFrom c.paramCount d.pieces, c.binds ++ d.binds⟩ := by
  simp [render_eq, append, textFrom_join, textFrom_map_shift, paramCount]

theorem render_push (c : Clause) (s : String) :
    (c.push s).render = ⟨c.render.sql ++ s, c.binds⟩ := by
  simp [render_eq, push, textFrom_join, Piece.shift, pieceText]

/-- **A further condition is written in parentheses**, its values behind those before. -/
theorem render_andGroup (c group : Clause) :
    (c.andGroup group).render =
      if group.isEmpty then c.render
      else ⟨c.render.sql ++ " AND (" ++ textFrom c.paramCount group.pieces ++ ")",
        c.binds ++ group.binds⟩ := by
  unfold andGroup
  split
  · rfl
  · have hcount : (c.push " AND (").paramCount = c.paramCount := rfl
    have hbinds : (c.push " AND (").binds = c.binds := rfl
    rw [render_push, render_append, render_push, hcount, hbinds]
    rfl

end Clause

end ContactBook
