/-
**Lists that are worked off piece by piece.**

Two ways of going through a list come up everywhere: item by item with a step that may fail, and in
batches.  The first gives a result for each item or fails with the first failure; the second loses
nothing and repeats nothing, because the batches are the list again when they are put together.

Main results:

* `ContactBook.mapM_eq_ok_iff`, `ContactBook.mapM_eq_error_iff` — the results of a pass that did not
  fail, item by item, and the failure of one that did;
* `ContactBook.flatten_batches` — **the batches of a list, put together, are the list**;
* `ContactBook.length_batches`, `ContactBook.length_of_mem_batches` — how many there are, and how
  long.
-/

import ContactBook.Batch
import Mathlib.Data.List.Forall2

set_option autoImplicit false

namespace ContactBook

/-! ### A step that may fail -/

section

variable {α β ε : Type} {f : α → Except ε β}

theorem map_eq_ok_iff {g : α → β} {x : Except ε α} {b : β} :
    x.map g = .ok b ↔ ∃ a, x = .ok a ∧ g a = b := by
  cases x <;> simp [Except.map]

theorem bind_eq_ok_iff {x : Except ε α} {b : β} :
    x >>= f = .ok b ↔ ∃ a, x = .ok a ∧ f a = .ok b := by
  cases x <;> simp [bind, Except.bind]

/-- The results of a pass that did not fail belong to the items one by one. -/
theorem forall₂_of_mapM_eq_ok {as : List α} {bs : List β} (h : as.mapM f = .ok bs) :
    List.Forall₂ (fun a b => f a = .ok b) as bs := by
  induction as generalizing bs with
  | nil =>
      obtain rfl : [] = bs := Except.ok.inj h
      exact .nil
  | cons a as ih =>
      rw [List.mapM_cons] at h
      cases ha : f a with
      | error e => rw [ha] at h; exact nomatch h
      | ok b =>
          cases has : as.mapM f with
          | error e => rw [ha, has] at h; exact nomatch h
          | ok cs =>
              rw [ha, has] at h
              obtain rfl : b :: cs = bs := Except.ok.inj h
              exact .cons ha (ih has)

theorem mapM_eq_ok_iff {as : List α} {bs : List β} :
    as.mapM f = .ok bs ↔ List.Forall₂ (fun a b => f a = .ok b) as bs := by
  refine ⟨forall₂_of_mapM_eq_ok, fun h => ?_⟩
  induction h with
  | nil => rfl
  | cons hab _ ih =>
      rw [List.mapM_cons, hab, ih]
      rfl

/-- A pass does not fail if the step fails for no item. -/
theorem exists_mapM_eq_ok {as : List α} (h : ∀ a ∈ as, ∃ b, f a = .ok b) :
    ∃ bs, as.mapM f = .ok bs := by
  induction as with
  | nil => exact ⟨[], rfl⟩
  | cons a as ih =>
      obtain ⟨b, hb⟩ := h a List.mem_cons_self
      obtain ⟨bs, hbs⟩ := ih fun a ha => h a (List.mem_cons_of_mem _ ha)
      refine ⟨b :: bs, ?_⟩
      rw [List.mapM_cons, hb, hbs]
      rfl

/-- The results of a pass are in order if the items are. -/
theorem pairwise_of_mapM_eq_ok {R : α → α → Prop} {S : β → β → Prop} {as : List α} {bs : List β}
    (h : as.mapM f = .ok bs) (hR : as.Pairwise R)
    (hS : ∀ {a a' b b'}, R a a' → f a = .ok b → f a' = .ok b' → S b b') : bs.Pairwise S := by
  have hall := forall₂_of_mapM_eq_ok h
  rw [List.pairwise_iff_getElem] at hR ⊢
  intro i j hi hj hij
  have hi' := hall.length_eq ▸ hi
  have hj' := hall.length_eq ▸ hj
  exact hS (hR i j hi' hj' hij) (hall.get hi' hi) (hall.get hj' hj)

/-- A pass fails as the first item does for which the step fails. -/
theorem mapM_eq_error_iff {as : List α} {e : ε} :
    as.mapM f = .error e ↔ ∃ a, as.find? (fun a => !(f a).isOk) = some a ∧ f a = .error e := by
  induction as with
  | nil =>
      constructor
      · intro h
        exact nomatch h
      · rintro ⟨a, h, -⟩
        exact nomatch h
  | cons a as ih =>
      cases ha : f a with
      | error d =>
          simp [List.mapM_cons, ha, bind, Except.bind, Except.isOk, Except.toBool]
      | ok b =>
          have htail : (a :: as).mapM f = .error e ↔ as.mapM f = .error e := by
            rw [List.mapM_cons, ha]
            cases as.mapM f <;> simp [bind, Except.bind, pure, Except.pure]
          have hpassed : (!(f a).isOk) = false := by rw [ha]; rfl
          rw [htail, ih, List.find?_cons, hpassed]

/-- A pass depends on what its step does with the items. -/
theorem mapM_congr_left {g : α → Except ε β} {as : List α} (h : ∀ a ∈ as, f a = g a) :
    as.mapM f = as.mapM g := by
  induction as with
  | nil => rfl
  | cons a as ih =>
      rw [List.mapM_cons, List.mapM_cons, h a List.mem_cons_self,
        ih fun b hb => h b (List.mem_cons_of_mem a hb)]

/-- The results of a pass that did not fail are those of the items. -/
theorem mem_of_mapM_eq_ok {as : List α} {bs : List β} (h : as.mapM f = .ok bs) (b : β) :
    b ∈ bs ↔ ∃ a ∈ as, f a = .ok b := by
  have hall := forall₂_of_mapM_eq_ok h
  clear h
  induction hall with
  | nil => simp
  | @cons a c as bs hac _ ih =>
      have hc : b = c ↔ f a = .ok b := by rw [hac, Except.ok.injEq, eq_comm]
      simp only [List.mem_cons, ih, exists_eq_or_imp, hc]

end

/-! ### Batches -/

section

variable {α : Type}

theorem flatten_batchesUpTo {size : Nat} (hs : 0 < size) (count : Nat) (as : List α)
    (h : as.length ≤ count) : (batchesUpTo size count as).flatten = as := by
  induction count generalizing as with
  | zero => simp [batchesUpTo, List.length_eq_zero_iff.1 (Nat.le_zero.1 h)]
  | succ count ih =>
      cases as with
      | nil => rfl
      | cons a as =>
          -- each batch takes something away, so that the number of batches suffices
          have hrest : ((a :: as).drop size).length ≤ count := by
            simp only [List.length_drop, List.length_cons] at h ⊢
            omega
          rw [batchesUpTo, List.flatten_cons, ih _ hrest, List.take_append_drop]

/-- **The batches of a list, put together, are the list.** -/
theorem flatten_batches {size : Nat} (hs : 0 < size) (as : List α) :
    (batches size as).flatten = as :=
  flatten_batchesUpTo hs as.length as (Nat.le_refl _)

/-- A list of any length is in as many batches as its length takes, rounded up. -/
theorem length_batchesUpTo {size : Nat} (hs : 0 < size) (count : Nat) (as : List α)
    (h : as.length ≤ count) :
    (batchesUpTo size count as).length = (as.length + (size - 1)) / size := by
  have hnone : (size - 1) / size = 0 := Nat.div_eq_of_lt (Nat.sub_lt hs Nat.one_pos)
  induction count generalizing as with
  | zero =>
      rw [List.length_eq_zero_iff.1 (Nat.le_zero.1 h)]
      simp [batchesUpTo, hnone]
  | succ count ih =>
      cases as with
      | nil => simp [batchesUpTo, hnone]
      | cons a as =>
          have hdrop : ((a :: as).drop size).length = as.length + 1 - size := List.length_drop
          rw [List.length_cons] at h ⊢
          rw [batchesUpTo, List.length_cons, ih _ (by omega), hdrop, ← Nat.add_div_right _ hs]
          by_cases hfull : size ≤ as.length + 1
          · congr 1
            omega
          · -- there is one batch, and it is not full
            have hone : as.length + 1 - size + (size - 1) + size = size - 1 + size := by omega
            rw [hone, Nat.add_div_right _ hs, hnone]
            refine (Nat.div_eq_of_lt_le ?_ ?_).symm <;> omega

theorem length_batches {size : Nat} (hs : 0 < size) (as : List α) :
    (batches size as).length = (as.length + (size - 1)) / size :=
  length_batchesUpTo hs as.length as (Nat.le_refl _)

/-- No batch is empty, and none is longer than its size. -/
theorem length_of_mem_batchesUpTo {size : Nat} (hs : 0 < size) {count : Nat} {as part : List α}
    (h : part ∈ batchesUpTo size count as) : 0 < part.length ∧ part.length ≤ size := by
  induction count generalizing as with
  | zero => exact nomatch h
  | succ count ih =>
      cases as with
      | nil => exact nomatch h
      | cons a as =>
          rcases List.mem_cons.1 h with rfl | h
          · rw [List.length_take, List.length_cons]
            omega
          · exact ih h

theorem length_of_mem_batches {size : Nat} (hs : 0 < size) {as part : List α}
    (h : part ∈ batches size as) : 0 < part.length ∧ part.length ≤ size :=
  length_of_mem_batchesUpTo hs h

/-- What stands in some batch of a list stands in the list. -/
theorem exists_mem_batches_iff {size : Nat} (hs : 0 < size) {as : List α} {a : α} :
    (∃ part ∈ batches size as, a ∈ part) ↔ a ∈ as := by
  rw [← List.mem_flatten, flatten_batches hs]

end

/-! ### Counting -/

/-- What passes one or the other of two tests that exclude each other is what passes the one and
then what passes the other, in another order. -/
theorem filter_or_perm {α : Type} {p q : α → Bool} {as : List α}
    (h : ∀ a ∈ as, p a = true → q a = false) :
    (as.filter fun a => p a || q a).Perm (as.filter p ++ as.filter q) := by
  induction as with
  | nil => exact .nil
  | cons a as ih =>
      obtain ⟨ha, has⟩ := List.forall_mem_cons.1 h
      cases hp : p a with
      | true =>
          simp only [List.filter_cons, hp, ha hp, Bool.true_or, if_true, Bool.false_eq_true,
            if_false, List.cons_append]
          exact (ih has).cons a
      | false =>
          cases hq : q a with
          | true =>
              simp only [List.filter_cons, hp, hq, Bool.false_or, if_true, Bool.false_eq_true,
                if_false]
              exact ((ih has).cons a).trans List.perm_middle.symm
          | false =>
              simp only [List.filter_cons, hp, hq, Bool.false_or, Bool.false_eq_true, if_false]
              exact ih has

/-- Without repetitions no item comes twice. -/
theorem nodup_eraseDups {α : Type} [BEq α] [LawfulBEq α] (as : List α) : as.eraseDups.Nodup := by
  -- the rest of the list is shorter, but it is no part of the list: induction on the length
  generalize hn : as.length = n
  induction n using Nat.strongRecOn generalizing as with
  | _ n ih =>
      cases as with
      | nil => exact List.nodup_nil
      | cons a as =>
          rw [List.eraseDups_cons, List.nodup_cons]
          have hlt : (as.filter fun b => !b == a).length < n := by
            have := List.length_filter_le (fun b => !b == a) as
            rw [List.length_cons] at hn
            omega
          refine ⟨?_, ih _ hlt _ rfl⟩
          rw [List.mem_eraseDups]
          intro hmem
          simpa using (List.mem_filter.1 hmem).2

/-- What passes one of two tests is what passes the first, and what is left of it and passes the
second. -/
theorem countP_or {α : Type} (p q : α → Bool) (as : List α) :
    as.countP (fun a => p a || q a) = as.countP p + (as.filter fun a => !p a).countP q := by
  induction as with
  | nil => rfl
  | cons a as ih =>
      cases hp : p a with
      | true =>
          simp only [List.countP_cons, List.filter_cons, hp, ih, Bool.true_or, Bool.not_true,
            Bool.false_eq_true, if_true, if_false]
          omega
      | false =>
          simp only [List.countP_cons, List.filter_cons, hp, ih, Bool.false_or, Bool.not_false,
            Bool.false_eq_true, if_true, if_false]
          omega

end ContactBook
