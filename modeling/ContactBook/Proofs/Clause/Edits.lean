/-
**Clauses that are built by edits.**

Clauses are built by edits, among them the edit that builds another clause in the same way and
appends it.  Edits have a meaning, too, which is defined without any index: a `rebind` means the
value that the `bind` it refers to has bound, wherever that value has got to.  A clause that is
built means what its edits mean, however deep they nest.

The slots that a clause hands out are indices, and stay what they are when the clause grows.  That
is the invariant: the slots at hand hold the values that the `bind`s have bound.

Main definitions:

* `ContactBook.Clause.Edit.values`, `ContactBook.Clause.Edit.valuesAll` — the values of edits;
* `ContactBook.Clause.Edit.meaning`, `ContactBook.Clause.Edit.meaningAll` — **the reference**: the
  meaning of edits;
* `ContactBook.Clause.Holds` — slots in which given values are found.

Main results:

* `ContactBook.Clause.Edit.adds` — **an edit adds its meaning**;
* `ContactBook.Clause.grows_build` — a clause that is built means what its edits mean;
* `ContactBook.Clause.laws_build` — **the laws of clauses that are built by edits**.
-/

import ContactBook.Proofs.Clause.Meaning
import Mathlib.Data.List.Forall2

set_option autoImplicit false

namespace ContactBook.Clause

variable {c d : Clause}

/-! ### Slots -/

/-- Slots in which the values `bound` are found. -/
def Holds (c : Clause) (slots : List Slot) (bound : List String) : Prop :=
  List.Forall₂ (fun slot v => c.binds[slot.index]? = some v) slots bound

/-- Slots hold what they held when more values are bound. -/
theorem Grows.holds {tokens : List Token} {values bound : List String} {slots : List Slot}
    (h : c.Grows d tokens values) (hslots : c.Holds slots bound) : d.Holds slots bound := by
  refine List.Forall₂.imp (fun slot v hv => ?_) hslots
  have hlt : slot.index < c.binds.length := (List.getElem?_eq_some_iff.1 hv).1
  rw [h.binds_eq, List.getElem?_append_left hlt, hv]

/-- A slot with a number is there when a value with this number is, and holds it. -/
theorem Holds.getElem? {slots : List Slot} {bound : List String} (h : c.Holds slots bound)
    (n : Nat) :
    slots[n]? = none ∧ bound[n]? = none ∨
      ∃ slot v, slots[n]? = some slot ∧ bound[n]? = some v ∧ c.binds[slot.index]? = some v := by
  induction h generalizing n with
  | nil => exact .inl ⟨rfl, rfl⟩
  | @cons slot v slots bound hv _ ih =>
      cases n with
      | zero => exact .inr ⟨slot, v, rfl, rfl, hv⟩
      | succ n => exact ih n

/-! ### Edits -/

namespace Edit

/-- Induction over edits: a property of appending may be derived from the same property of the edits
of what is appended. -/
@[induction_eliminator]
theorem induction {P : Edit → Prop} (push : ∀ s, P (.push s)) (bind : ∀ v, P (.bind v))
    (rebind : ∀ n, P (.rebind n)) (bindList : ∀ values, P (.bindList values))
    (append : ∀ edits, (∀ e ∈ edits, P e) → P (.append edits)) (e : Edit) : P e :=
  @Edit.rec P (fun edits => ∀ e ∈ edits, P e) push bind rebind bindList append
    (fun _ h => (nomatch h)) (fun _ _ he hrest => List.forall_mem_cons.2 ⟨he, hrest⟩) e

mutual

/-- The values that an edit binds. -/
def values : Edit → List String
  | .push _ => []
  | .bind v => [v]
  | .rebind _ => []
  | .bindList values => values
  | .append edits => valuesAll edits

/-- The values that edits bind. -/
def valuesAll : List Edit → List String
  | [] => []
  | e :: rest => e.values ++ valuesAll rest

end

/-- The values that an edit binds so that one may refer to them again. -/
def slotted : Edit → List String
  | .bind v => [v]
  | _ => []

mutual

/-- **The meaning of an edit**; `bound` are the values of the `bind`s before it. -/
def meaning (bound : List String) : Edit → List Token
  | .push s => Token.ofText s
  | .bind v => [.value v]
  | .rebind n => bound[n]?.toList.map .value
  | .bindList values => listed values
  | .append edits => meaningAll [] edits

/-- **The meaning of edits**; `bound` are the values of the `bind`s before them. -/
def meaningAll (bound : List String) : List Edit → List Token
  | [] => []
  | e :: rest => e.meaning bound ++ meaningAll (bound ++ e.slotted) rest

end

/-- **An edit adds its meaning** and its values to a clause, and hands on the slots with those that
it has got. -/
def Adds (edit : Edit) : Prop :=
  ∀ (c : Clause) (slots : List Slot) (bound : List String), c.Sound → c.Holds slots bound →
    c.Grows (c.edited slots edit).1 (edit.meaning bound) edit.values ∧
      (c.edited slots edit).1.Holds (c.edited slots edit).2 (bound ++ edit.slotted)

end Edit

open Edit

/-- Edits one after another add what they add one by one. -/
theorem Sound.grows_editedAll {edits : List Edit} (hadds : ∀ edit ∈ edits, edit.Adds)
    (hc : c.Sound) {slots : List Slot} {bound : List String} (hslots : c.Holds slots bound) :
    c.Grows (c.editedAll slots edits).1 (meaningAll bound edits) (valuesAll edits) := by
  induction edits generalizing c slots bound with
  | nil => exact hc.grows_refl
  | cons edit rest ih =>
      obtain ⟨hadd, hrest⟩ := List.forall_mem_cons.1 hadds
      obtain ⟨hgrows, hslots⟩ := hadd c slots bound hc hslots
      exact hgrows.trans (ih hrest hgrows.sound hslots)

/-- An edit that hands on the slots as they are adds its meaning if the clause grows by it. -/
theorem Edit.adds_of_grows {edit : Edit} (hslotted : edit.slotted = [])
    (h : ∀ (c : Clause) (slots : List Slot) (bound : List String), c.Sound → c.Holds slots bound →
      (c.edited slots edit).2 = slots ∧
        c.Grows (c.edited slots edit).1 (edit.meaning bound) edit.values) : edit.Adds := by
  intro c slots bound hc hslots
  obtain ⟨hsame, hgrows⟩ := h c slots bound hc hslots
  refine ⟨hgrows, ?_⟩
  rw [hsame, hslotted, List.append_nil]
  exact hgrows.holds hslots

/-- **Every edit adds its meaning.** -/
theorem Edit.adds (edit : Edit) : edit.Adds := by
  induction edit with
  | push s => exact adds_of_grows rfl fun c slots bound hc _ => ⟨rfl, hc.grows_push s⟩
  | bind v =>
      intro c slots bound hc hslots
      have hgrows := hc.grows_bind v
      refine ⟨hgrows, List.rel_append (hgrows.holds hslots) (.cons ?_ .nil)⟩
      rw [hgrows.binds_eq]
      simp [nextSlot]
  | rebind n =>
      refine adds_of_grows rfl fun c slots bound hc hslots => ?_
      obtain ⟨hslot, hbound⟩ | ⟨slot, v, hslot, hbound, hv⟩ := hslots.getElem? n
      · rw [edited, Edit.meaning, hslot, hbound]
        exact ⟨rfl, hc.grows_refl⟩
      · rw [edited, Edit.meaning, hslot, hbound]
        exact ⟨rfl, hc.grows_rebind hv⟩
  | bindList values =>
      exact adds_of_grows rfl fun c slots bound hc _ => ⟨rfl, hc.grows_bindList values⟩
  | append edits ih =>
      refine adds_of_grows rfl fun c slots bound hc _ => ⟨rfl, ?_⟩
      -- what is appended has been built from nothing, with slots of its own
      have happended := sound_empty.grows_editedAll ih .nil
      have hgrows := hc.grows_append happended.sound
      rw [happended.meaning_eq, happended.binds_eq] at hgrows
      exact hgrows

/-- **A clause that is built means what its edits mean.** -/
theorem grows_build (edits : List Edit) :
    empty.Grows (build edits) (meaningAll [] edits) (valuesAll edits) :=
  sound_empty.grows_editedAll (fun edit _ => edit.adds) .nil

/-- More edits go on with what the edits before them have left. -/
theorem editedAll_append (c : Clause) (slots : List Slot) (edits more : List Edit) :
    c.editedAll slots (edits ++ more) =
      (c.editedAll slots edits).1.editedAll (c.editedAll slots edits).2 more := by
  induction edits generalizing c slots with
  | nil => rfl
  | cons edit rest ih => exact ih _ _

/-- **A further condition is a matter of three edits**, so that all that holds of clauses that are
built holds of it. -/
theorem andGroup_build (edits group : List Edit) :
    (build edits).andGroup (build group) =
      build (if (build group).isEmpty then edits
        else edits ++ [.push " AND (", .append group, .push ")"]) := by
  unfold andGroup
  split
  · rfl
  · rw [build, build, build, editedAll_append]
    rfl

/-- **The laws of clauses that are built by edits**, however deep these nest.  Each reference has a
value, no text follows a text, and the values are those that the edits bind, those of appended
clauses among them.  A clause means what its edits mean.  Appending another clause adds its meaning:
the values of the one keep their indices, and the references to the values of the other have moved
with them.  Clauses are appended in any grouping, and the empty one adds nothing on either side.
Each reference is written as the placeholder with whose number its value is found, so that the text
writes the meaning. -/
theorem laws_build (edits more further : List Edit) :
    let c := build edits
    let d := build more
    let e := build further
    c.Sound ∧
      (c.binds = valuesAll edits ∧ c.paramCount = (valuesAll edits).length) ∧
      c.meaning = meaningAll [] edits ∧
      ((c.append d).meaning = c.meaning ++ d.meaning ∧
        (∀ i < c.paramCount, (c.append d).binds[i]? = c.binds[i]?) ∧
        ∀ i, .param i ∈ d.pieces →
          .param (i + c.paramCount) ∈ (c.append d).pieces ∧
            (c.append d).binds[i + c.paramCount]? = d.binds[i]?) ∧
      ((c.append d).append e = c.append (d.append e) ∧
        c.append empty = c ∧ empty.append c = c) ∧
      (∀ before i after, c.pieces = before ++ .param i :: after →
        ∃ v, c.binds[i]? = some v ∧ c.render.value? (i + 1) = some v ∧
          c.render.sql = textFrom 0 before ++ ("?" ++ toString (i + 1)) ++ textFrom 0 after) ∧
      c.render.Writes c.meaning c.render.sql.toList := by
  intro c d e
  have hc := grows_build edits
  have hd := grows_build more
  have hbinds : c.binds = valuesAll edits := hc.binds_eq
  refine ⟨hc.sound, ⟨hbinds, congrArg List.length hbinds⟩, hc.meaning_eq,
    ⟨(hc.sound.grows_append hd.sound).meaning_eq, fun i hi => ?_, fun i hi => ⟨?_, ?_⟩⟩,
    ⟨append_assoc c d e, append_empty c, empty_append c⟩,
    fun before i after hpieces => hc.sound.placeholder hpieces, hc.sound.writes⟩
  · exact List.getElem?_append_left hi
  · exact param_mem_join_iff.2 (.inr (List.mem_map_of_mem hi))
  · exact (List.getElem?_append_right (Nat.le_add_left _ _)).trans
      (congrArg (d.binds[·]?) (Nat.add_sub_cancel _ _))

/-- A clause that refers to a value of its own before and after another clause is appended, which
has a list of values and refers to the fourth value of the whole twice. -/
theorem laws_build_nested :
    let edits : List Edit :=
      [.push "a = ", .bind "x",
        .append [.push " OR b IN ", .bindList ["y", "z"], .push " OR c = ", .bind "w",
          .push " OR d = ", .rebind 0],
        .push " OR e = ", .rebind 0]
    let c := build edits
    let d := build [.push " OR f = ", .bind "x", .push "", .bind "u"]
    c.Sound ∧ c.paramCount = 4 ∧
      c.meaning = Token.ofText "a = " ++ [.value "x"] ++ Token.ofText " OR b IN (" ++
        [.value "y"] ++ Token.ofText ", " ++ [.value "z"] ++ Token.ofText ") OR c = " ++
        [.value "w"] ++ Token.ofText " OR d = " ++ [.value "w"] ++ Token.ofText " OR e = " ++
        [.value "x"] ∧
      .param 5 ∈ (c.append d).pieces ∧ (c.append d).binds[5]? = some "u" ∧
      c.render.value? 4 = some "w" ∧
      c.render.sql = "a = ?1 OR b IN (?2, ?3) OR c = ?4 OR d = ?4 OR e = ?1" := by
  intro edits c d
  obtain ⟨hsound, ⟨-, hcount⟩, hmeaning, ⟨-, -, hmoved⟩, -, hplaceholder, -⟩ :=
    laws_build edits [.push " OR f = ", .bind "x", .push "", .bind "u"] []
  obtain ⟨hparam, hvalue⟩ := hmoved 1 (by decide)
  obtain ⟨v, hv, hfourth, hsql⟩ := hplaceholder
    [.text "a = ", .param 0, .text " OR b IN (", .param 1, .text ", ", .param 2,
      .text ") OR c = "] 3 [.text " OR d = ", .param 3, .text " OR e = ", .param 0] (by decide)
  obtain rfl : "w" = v := Option.some.inj hv
  exact ⟨hsound, hcount.trans (by decide), hmeaning.trans (by decide +kernel), hparam,
    hvalue.trans (by decide), hfourth, hsql.trans (by decide +kernel)⟩

end ContactBook.Clause
