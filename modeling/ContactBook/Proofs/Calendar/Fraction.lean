/-
**Fractions that can be read.**

The digits of a fraction are read one after the other into a floating-point number, which they must
not overflow.  For each digit the number is rounded three times, and each time it can become
greater.  So it is held against a bound that grows a little faster than the digits alone would let
it.  The bound for 308 digits is within reach of the format.

Main definition:

* `ContactBook.Calendar.TimeValue.mostOf` — the bound for so many digits.

Main results:

* `ContactBook.Calendar.TimeValue.exists_appendDigit?_le` — a digit takes the number from one bound
  to the next;
* `ContactBook.Calendar.TimeValue.fractionFits_of_length_le` — **308 digits can be read**.
-/

import ContactBook.Calendar.TimeValue
import ContactBook.Proofs.Decimal.Binary64

set_option autoImplicit false

namespace ContactBook.Calendar.TimeValue

open ContactBook.Decimal

/-- The greatest number that so many digits can make up, with what rounding can add to it. -/
def mostOf : Nat → Nat
  | 0 => 0
  | k + 1 => 10 * mostOf k + mostOf k / 2 ^ 40 + 14

theorem mostOf_le {k m : Nat} (h : k ≤ m) : mostOf k ≤ mostOf m := by
  refine monotone_nat_of_le_succ (fun n => ?_) h
  rw [mostOf]
  omega

/-- The format holds what 308 digits can make up. -/
theorem mostOf_lt_limit {k : Nat} (h : k ≤ 308) : (mostOf k : ℚ) + 100 < Magnitude.limit := by
  have hmost : mostOf 308 + 100 + 2 ^ 971 < 2 ^ 1024 := by decide +kernel
  have hless : mostOf k + 100 + 2 ^ 971 < 2 ^ 1024 := by
    have hle := mostOf_le h
    omega
  rw [Magnitude.limit, lt_sub_iff_add_lt]
  exact_mod_cast hless

/-- A number that is rounded after a step, with what it can have become. -/
theorem exists_rounded {num den : Nat} (hden : 0 < den) {bound : ℚ} (h : (num : ℚ) / den ≤ bound)
    (hbound : bound < Magnitude.limit) :
    ∃ x, Magnitude.ofRatio num den = some x ∧ x.value ≤ bound * (1 + 1 / 2 ^ 52) + 1 := by
  obtain ⟨x, hx, hvalue⟩ := Magnitude.exists_ofRatio_le hden (lt_of_le_of_lt h hbound)
  refine ⟨x, hx, le_trans hvalue ?_⟩
  have hmul := mul_le_mul_of_nonneg_right h (by norm_num : (0 : ℚ) ≤ 1 + 1 / 2 ^ 52)
  linarith

/-- **One more digit is read**, if there are no more than 308. -/
theorem exists_appendDigit?_le {x : Magnitude} {k : Nat} (hx : x.value ≤ mostOf k) (hk : k < 308)
    {c : Char} (hc : c.isDigit = true) :
    ∃ y, appendDigit? x c = some y ∧ y.value ≤ mostOf (k + 1) := by
  have hroom := mostOf_lt_limit hk
  have hnext : (mostOf k : ℚ) * 10 + mostOf k / 2 ^ 40 + 13 ≤ mostOf (k + 1) := by
    have hfloor : (mostOf k : ℚ) / (2 ^ 40 : Nat) < (mostOf k / 2 ^ 40 : Nat) + 1 := by
      have hdiv := Nat.lt_mul_div_succ (mostOf k) (show 0 < 2 ^ 40 by decide)
      rw [div_lt_iff₀' (by positivity)]
      exact_mod_cast hdiv
    rw [mostOf]
    push_cast at hfloor ⊢
    linarith
  have hcode : (c.toNat : ℚ) ≤ 57 := by
    have hnine := (Char.isDigit_iff_toNat.1 hc).2
    exact_mod_cast hnine
  generalize (mostOf (k + 1) : ℚ) = next at hroom hnext ⊢
  have hnonneg : (0 : ℚ) ≤ mostOf k := Nat.cast_nonneg _
  generalize (mostOf k : ℚ) = most at hx hnext hnonneg
  -- ten times the number
  obtain ⟨hb, hvalue⟩ := x.ratio_value
  have htimes : ((x.ratio.1 * 10 : Nat) : ℚ) / x.ratio.2 ≤ most * 10 := by
    push_cast
    rw [mul_div_right_comm, hvalue]
    linarith
  obtain ⟨x₁, hx₁, hle₁⟩ := exists_rounded hb htimes (by linarith)
  -- the code of the digit
  obtain ⟨hb₁, hvalue₁⟩ := x₁.ratio_value
  have hplus : ((x₁.ratio.1 + c.toNat * x₁.ratio.2 : Nat) : ℚ) / x₁.ratio.2 ≤
      most * 10 * (1 + 1 / 2 ^ 52) + 58 := by
    have hne : (x₁.ratio.2 : ℚ) ≠ 0 := by exact_mod_cast hb₁.ne'
    push_cast
    rw [add_div, mul_div_cancel_right₀ _ hne, hvalue₁]
    linarith
  obtain ⟨x₂, hx₂, hle₂⟩ := exists_rounded hb₁ hplus (by linarith)
  -- the code of zero
  obtain ⟨hb₂, hvalue₂⟩ := x₂.ratio_value
  have hminus : ((x₂.ratio.1 - '0'.toNat * x₂.ratio.2 : Nat) : ℚ) / x₂.ratio.2 ≤
      most * 10 + most / 2 ^ 41 + 23 / 2 := by
    have hne : (x₂.ratio.2 : ℚ) ≠ 0 := by exact_mod_cast hb₂.ne'
    rcases le_total ('0'.toNat * x₂.ratio.2) x₂.ratio.1 with hle | hle
    · rw [Nat.cast_sub hle, sub_div, hvalue₂, Nat.cast_mul, mul_div_cancel_right₀ _ hne]
      have hzero : '0'.toNat = 48 := rfl
      rw [hzero]
      push_cast
      linarith
    · rw [Nat.sub_eq_zero_of_le hle, Nat.cast_zero, zero_div]
      positivity
  obtain ⟨x₃, hx₃, hle₃⟩ := exists_rounded hb₂ hminus (by linarith)
  refine ⟨x₃, ?_, by linarith⟩
  simp only [appendDigit?, hx₁, hx₂, hx₃, bind, Option.bind]

theorem isSome_foldlM_appendDigit? {ds : List Char} (hd : ∀ c ∈ ds, c.isDigit = true)
    {x : Magnitude} {k : Nat} (hx : x.value ≤ mostOf k) (hk : k + ds.length ≤ 308) :
    (ds.foldlM appendDigit? x).isSome = true := by
  induction ds generalizing x k with
  | nil => rfl
  | cons c ds ih =>
      rw [List.length_cons] at hk
      obtain ⟨y, hy, hle⟩ := exists_appendDigit?_le hx (by omega) (hd c List.mem_cons_self)
      have hrest := ih (fun c hc => hd c (List.mem_cons_of_mem _ hc)) hle (by omega)
      simpa [hy] using hrest

/-- **A fraction fits that has no more than 308 digits**, apart from zeros in front. -/
theorem fractionFits_of_length_le {ds : List Char} (hd : ∀ c ∈ ds, c.isDigit = true)
    (hlength : (ds.dropWhile (· == '0')).length ≤ 308) : fractionFits ds = true := by
  have hzero : appendDigit? Magnitude.zero '0' = some Magnitude.zero := by decide +kernel
  induction ds with
  | nil => rfl
  | cons c ds ih =>
      by_cases hc : c = '0'
      · subst hc
        have hrest := ih (fun c hc => hd c (List.mem_cons_of_mem _ hc)) (by simpa using hlength)
        simpa [fractionFits, hzero] using hrest
      · have hall : (c :: ds).dropWhile (· == '0') = c :: ds := by simp [hc]
        rw [hall] at hlength
        have hstart : Magnitude.zero.value ≤ mostOf 0 := by
          rw [Magnitude.value_zero]
          exact Nat.cast_nonneg _
        exact isSome_foldlM_appendDigit? hd hstart (by omega)

end ContactBook.Calendar.TimeValue
