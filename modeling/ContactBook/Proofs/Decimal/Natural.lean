/-
**Digits, numbers and their order.**

A number that is written with a fixed number of digits can be read back, and numbers that are
written so are ordered as their digits are, character by character from the left.  That is why texts
with such numbers at the same places can be compared as texts.

Main definition:

* `ContactBook.Decimal.Stops` — where digits end.

Main results:

* `ContactBook.Decimal.numberOf_padded`, `length_padded` — a padded number is the number, and as
  wide as it should be;
* `ContactBook.Decimal.numberOf_repr`, `tail_eq_nil_of_repr_eq` — so is a printed number, which has
  no zero in front;
* `ContactBook.Decimal.digits_append_lt_iff` — digits of one length are ordered as their numbers;
* `ContactBook.Decimal.padded_append_lt_iff` — **texts that begin with padded numbers are ordered by
  these numbers first**;
* `ContactBook.Decimal.padded_add` — the digits of a number in two parts.
-/

import ContactBook.Decimal.Natural
import Mathlib.Algebra.Group.Nat.Defs

set_option autoImplicit false

namespace ContactBook.Decimal

/-! ### Numbers of digits -/

theorem ne_of_isDigit {c d : Char} (hc : c.isDigit = true) (hd : d.isDigit = false) : c ≠ d := by
  rintro rfl
  exact Bool.false_ne_true (hd.symm.trans hc)

theorem numberOf_eq_ofDigitChars (cs : List Char) : numberOf cs = Nat.ofDigitChars 10 cs 0 := by
  rw [numberOf, Nat.ofDigitChars]
  exact congrArg (fun step => cs.foldl step 0) (funext fun n => funext fun c => by
    rw [Nat.mul_comm, digitValue]
    rfl)

theorem numberOf_append (a b : List Char) :
    numberOf (a ++ b) = numberOf a * 10 ^ b.length + numberOf b := by
  rw [numberOf_eq_ofDigitChars, Nat.ofDigitChars_append, Nat.ofDigitChars_eq_ofDigitChars_zero,
    ← numberOf_eq_ofDigitChars, ← numberOf_eq_ofDigitChars, Nat.mul_comm]

theorem numberOf_cons (c : Char) (cs : List Char) :
    numberOf (c :: cs) = digitValue c * 10 ^ cs.length + numberOf cs := by
  have hsingle : numberOf [c] = digitValue c := by simp [numberOf]
  rw [← hsingle, ← numberOf_append, List.singleton_append]

theorem digitValue_lt {c : Char} (h : c.isDigit = true) : digitValue c < 10 := by
  have := (Char.isDigit_iff_toNat.1 h).2
  have hnine : '9'.toNat = 57 := rfl
  rw [digitValue]
  omega

theorem numberOf_lt {cs : List Char} (h : ∀ c ∈ cs, c.isDigit = true) :
    numberOf cs < 10 ^ cs.length := by
  induction cs with
  | nil => decide
  | cons c cs ih =>
      have hc := digitValue_lt (h c List.mem_cons_self)
      have hcs := ih fun d hd => h d (List.mem_cons_of_mem _ hd)
      have hmul := Nat.mul_le_mul_right (10 ^ cs.length) (Nat.le_of_lt_succ hc)
      rw [numberOf_cons, List.length_cons, Nat.pow_succ]
      omega

/-! ### Padded numbers -/

/-- A padded number is the number. -/
@[simp] theorem numberOf_padded (width n : Nat) : numberOf (padded width n) = n := by
  rw [numberOf_eq_ofDigitChars, padded, Nat.ofDigitChars_append, Nat.ofDigitChars_replicate_zero,
    Nat.mul_zero, Nat.repr_eq_ofList_toDigits, String.toList_ofList, Nat.ofDigitChars_ten_toDigits]

theorem isDigit_of_mem_padded {width n : Nat} {c : Char} (h : c ∈ padded width n) :
    c.isDigit = true := by
  rw [padded, Nat.repr_eq_ofList_toDigits, String.toList_ofList, List.mem_append] at h
  rcases h with hzero | hdigit
  · rw [(List.mem_replicate.1 hzero).2]
    decide
  · exact Nat.isDigit_of_mem_toDigits (by decide) (by decide) hdigit

theorem padded_ne_nil (width n : Nat) : padded width n ≠ [] := by
  rw [padded, Nat.repr_eq_ofList_toDigits, String.toList_ofList]
  exact List.append_ne_nil_of_right_ne_nil _ Nat.toDigits_ne_nil

theorem exists_cons_padded (width n : Nat) :
    ∃ c digits, padded width n = c :: digits ∧ c.isDigit = true := by
  cases hdigits : padded width n with
  | nil => exact absurd hdigits (padded_ne_nil width n)
  | cons c digits =>
      exact ⟨c, digits, rfl, isDigit_of_mem_padded (hdigits ▸ List.mem_cons_self)⟩

/-- A padded number is as wide as it should be. -/
theorem length_padded {width n : Nat} (hw : 0 < width) (h : n < 10 ^ width) :
    (padded width n).length = width := by
  have hdigits := (Nat.length_toDigits_le_iff (by decide : 1 < 10) hw).2 h
  rw [padded, Nat.repr_eq_ofList_toDigits, String.toList_ofList, List.length_append,
    List.length_replicate]
  omega

/-- A number that is too great for its width is written wider. -/
theorem lt_length_padded {width n : Nat} (hw : 0 < width) (h : 10 ^ width ≤ n) :
    width < (padded width n).length := by
  have hdigits := mt (Nat.length_toDigits_le_iff (by decide : 1 < 10) hw).1 (Nat.not_lt.2 h)
  rw [padded, Nat.repr_eq_ofList_toDigits, String.toList_ofList, List.length_append]
  omega

/-- A padded number is read if it lies between the bounds, whatever follows it. -/
theorem fixed?_padded_append {width n : Nat} (hw : 0 < width) (hn : n < 10 ^ width)
    (least greatest : Nat) (rest : List Char) :
    fixed? width least greatest (padded width n ++ rest) =
      if least ≤ n ∧ n ≤ greatest then some (n, rest) else none := by
  have hlength := length_padded hw hn
  have htake : (padded width n ++ rest).take width = padded width n := by
    rw [List.take_append_of_le_length (by omega), List.take_of_length_le (by omega)]
  have hdrop : (padded width n ++ rest).drop width = rest := by
    rw [List.drop_append_of_le_length (by omega), List.drop_of_length_le (by omega),
      List.nil_append]
  have hdigits : (padded width n).all Char.isDigit = true :=
    List.all_eq_true.2 fun _ => isDigit_of_mem_padded
  simp only [fixed?, htake, hdrop, numberOf_padded, hlength, hdigits, beq_self_eq_true,
    Bool.true_and, Bool.and_eq_true, decide_eq_true_eq]

section

variable {width least greatest n : Nat}

/-- A padded number is read back, whatever follows it. -/
theorem fixed?_padded (hw : 0 < width) (hwidth : greatest < 10 ^ width) (hleast : least ≤ n)
    (hgreatest : n ≤ greatest) (rest : List Char) :
    fixed? width least greatest (padded width n ++ rest) = some (n, rest) := by
  rw [fixed?_padded_append hw (Nat.lt_of_le_of_lt hgreatest hwidth), if_pos ⟨hleast, hgreatest⟩]

/-- A number of two digits is read back. -/
theorem fixed?_two (hleast : least ≤ n) (hgreatest : n ≤ greatest) {rest : List Char}
    (hfits : greatest < 100 := by decide) :
    fixed? 2 least greatest (padded 2 n ++ rest) = some (n, rest) :=
  fixed?_padded Nat.two_pos hfits hleast hgreatest rest

/-- A number of two digits is read back at the end of a text. -/
theorem fixed?_two_end (hleast : least ≤ n) (hgreatest : n ≤ greatest)
    (hfits : greatest < 100 := by decide) :
    fixed? 2 least greatest (padded 2 n) = some (n, []) := by
  simpa using fixed?_padded Nat.two_pos hfits hleast hgreatest []

/-- Behind a number of so many digits a text goes on. -/
theorem eq_drop_of_fixed? {cs rest : List Char}
    (h : fixed? width least greatest cs = some (n, rest)) : rest = cs.drop width := by
  simp only [fixed?] at h
  split at h
  · exact (Prod.mk.inj (Option.some.inj h)).2.symm
  · exact nomatch h

/-- No number begins with another sign. -/
theorem fixed?_cons_eq_none (hw : 0 < width) {c : Char} (hc : c.isDigit = false)
    (rest : List Char) : fixed? width least greatest (c :: rest) = none := by
  cases width with
  | zero => exact absurd hw (Nat.lt_irrefl 0)
  | succ width => simp [fixed?, hc]

end

/-! ### Numbers as they are printed -/

theorem padded_zero (n : Nat) : padded 0 n = (Nat.repr n).toList := by simp [padded]

theorem isDigit_of_mem_repr {n : Nat} {c : Char} (h : c ∈ (Nat.repr n).toList) : c.isDigit = true :=
  isDigit_of_mem_padded (padded_zero n ▸ h)

theorem numberOf_repr (n : Nat) : numberOf (Nat.repr n).toList = n := by
  rw [← padded_zero, numberOf_padded]

/-- Only zero is printed with a zero in front. -/
theorem tail_eq_nil_of_repr_eq {n : Nat} {ds : List Char} (h : (Nat.repr n).toList = '0' :: ds) :
    ds = [] := by
  refine Classical.byContradiction fun hne => ?_
  have hpos := List.length_pos_iff.2 hne
  have hds : ∀ d ∈ ds, d.isDigit = true := fun d hd =>
    isDigit_of_mem_repr (h ▸ List.mem_cons_of_mem _ hd)
  -- the digits behind the zero would write the number too
  have hnumber : n = numberOf ds := by
    rw [← numberOf_repr n, h, numberOf_cons, digitValue]
    simp
  have hlt : n < 10 ^ ds.length := by
    rw [hnumber]
    exact numberOf_lt hds
  have hlength := (Nat.length_toDigits_le_iff (by decide : 1 < 10) hpos).2 hlt
  rw [Nat.repr_eq_ofList_toDigits, String.toList_ofList] at h
  rw [h, List.length_cons] at hlength
  omega

/-! ### Where digits end -/

/-- Whether digits that stand before a text end where the text begins. -/
def Stops (rest : List Char) : Prop := ∀ c ∈ rest.head?, c.isDigit = false

theorem stops_cons {c : Char} {rest : List Char} (h : c.isDigit = false) : Stops (c :: rest) := by
  intro d hd
  obtain rfl : c = d := Option.some.inj hd
  exact h

theorem takeWhile_isDigit_append {digits rest : List Char} (hd : ∀ c ∈ digits, c.isDigit = true)
    (hrest : Stops rest) : (digits ++ rest).takeWhile Char.isDigit = digits := by
  rw [List.takeWhile_append_of_pos hd]
  cases rest with
  | nil => simp
  | cons c rest => simp [hrest c rfl]

theorem dropWhile_isDigit_append {digits rest : List Char} (hd : ∀ c ∈ digits, c.isDigit = true)
    (hrest : Stops rest) : (digits ++ rest).dropWhile Char.isDigit = rest := by
  rw [List.dropWhile_append_of_pos hd]
  cases rest with
  | nil => rfl
  | cons c rest => simp [hrest c rfl]

theorem Stops.take {rest : List Char} (h : Stops rest) (most : Nat) : Stops (rest.take most) := by
  intro c hc
  cases rest with
  | nil => simp at hc
  | cons d rest =>
      cases most with
      | zero => simp at hc
      | succ most => exact h c hc

/-! ### Order -/

theorem lt_iff_digitValue_lt {c d : Char} (hc : c.isDigit = true) (hd : d.isDigit = true) :
    c < d ↔ digitValue c < digitValue d := by
  have hc := (Char.isDigit_iff_toNat.1 hc).1
  have hd := (Char.isDigit_iff_toNat.1 hd).1
  have hzero : '0'.toNat = 48 := rfl
  have hval : c < d ↔ c.toNat < d.toNat := Char.lt_def.trans UInt32.lt_iff_toNat_lt
  rw [hval, digitValue, digitValue]
  omega

theorem eq_of_digitValue_eq {c d : Char} (hc : c.isDigit = true) (hd : d.isDigit = true)
    (h : digitValue c = digitValue d) : c = d := by
  have hc := (Char.isDigit_iff_toNat.1 hc).1
  have hd := (Char.isDigit_iff_toNat.1 hd).1
  have hzero : '0'.toNat = 48 := rfl
  rw [digitValue, digitValue] at h
  exact Char.toNat_inj.1 (by omega)

/-- **Digits of one length are ordered as their numbers**, and so are texts that begin with them. -/
theorem digits_append_lt_iff {a b x y : List Char} (hlength : a.length = b.length)
    (ha : ∀ c ∈ a, c.isDigit = true) (hb : ∀ c ∈ b, c.isDigit = true) :
    a ++ x < b ++ y ↔ numberOf a < numberOf b ∨ numberOf a = numberOf b ∧ x < y := by
  induction a generalizing b with
  | nil =>
      obtain rfl : b = [] := List.length_eq_zero_iff.1 hlength.symm
      simp
  | cons c a ih =>
      cases b with
      | nil => exact nomatch hlength
      | cons d b =>
          have hlength : a.length = b.length := Nat.succ.inj hlength
          have hc := ha c List.mem_cons_self
          have hd := hb d List.mem_cons_self
          have ha := fun e he => ha e (List.mem_cons_of_mem _ he)
          have hb := fun e he => hb e (List.mem_cons_of_mem _ he)
          rw [List.cons_append, List.cons_append, List.cons_lt_cons_iff, ih hlength ha hb,
            lt_iff_digitValue_lt hc hd, numberOf_cons, numberOf_cons, hlength]
          -- the digits behind the first make up less than one of the first
          have hrest := numberOf_lt ha
          have hrest' := numberOf_lt hb
          rw [hlength] at hrest
          rcases Nat.lt_trichotomy (digitValue c) (digitValue d) with hlt | heq | hgt
          · have hmul := Nat.mul_le_mul_right (10 ^ b.length) hlt
            rw [Nat.succ_mul] at hmul
            exact iff_of_true (.inl hlt) (.inl (by omega))
          · obtain rfl := eq_of_digitValue_eq hc hd heq
            simp
          · have hmul := Nat.mul_le_mul_right (10 ^ b.length) hgt
            rw [Nat.succ_mul] at hmul
            have hne : c ≠ d := by
              rintro rfl
              exact Nat.lt_irrefl _ hgt
            refine iff_of_false ?_ ?_
            · rintro (hlt | ⟨heq, -⟩)
              · omega
              · exact hne heq
            · rintro (hlt | ⟨heq, -⟩) <;> omega

/-- **Texts that begin with padded numbers are ordered by these numbers first.** -/
theorem padded_append_lt_iff {width n m : Nat} {x y : List Char} (hw : 0 < width)
    (hn : n < 10 ^ width) (hm : m < 10 ^ width) :
    padded width n ++ x < padded width m ++ y ↔ n < m ∨ n = m ∧ x < y := by
  have hlength : (padded width n).length = (padded width m).length := by
    rw [length_padded hw hn, length_padded hw hm]
  rw [digits_append_lt_iff hlength (fun _ => isDigit_of_mem_padded)
    fun _ => isDigit_of_mem_padded, numberOf_padded, numberOf_padded]

/-- Digits of one length are the same when their numbers are. -/
theorem eq_of_numberOf_eq {a b : List Char} (hlength : a.length = b.length)
    (ha : ∀ c ∈ a, c.isDigit = true) (hb : ∀ c ∈ b, c.isDigit = true)
    (h : numberOf a = numberOf b) : a = b := by
  -- neither comes before the other
  have hab := digits_append_lt_iff (x := []) (y := []) hlength ha hb
  have hba := digits_append_lt_iff (x := []) (y := []) hlength.symm hb ha
  simp only [List.append_nil, h, Nat.lt_irrefl, List.not_lt_nil, and_false, or_false,
    iff_false] at hab hba
  exact List.le_antisymm hba hab

/-- The digits of a number in two parts. -/
theorem padded_add {width more n : Nat} (hw : 0 < width) (hm : 0 < more)
    (h : n < 10 ^ (width + more)) :
    padded (width + more) n = padded width (n / 10 ^ more) ++ padded more (n % 10 ^ more) := by
  have hfront : n / 10 ^ more < 10 ^ width := by
    rw [Nat.pow_add] at h
    exact Nat.div_lt_of_lt_mul (by rwa [Nat.mul_comm])
  have hback : n % 10 ^ more < 10 ^ more := Nat.mod_lt _ (Nat.pow_pos (by decide))
  refine eq_of_numberOf_eq ?_ (fun _ => isDigit_of_mem_padded) (fun c hc => ?_) ?_
  · rw [length_padded (by omega) h, List.length_append, length_padded hw hfront,
      length_padded hm hback]
  · rcases List.mem_append.1 hc with hc | hc <;> exact isDigit_of_mem_padded hc
  · rw [numberOf_append, numberOf_padded, numberOf_padded, numberOf_padded,
      length_padded hm hback, Nat.div_add_mod']

end ContactBook.Decimal
