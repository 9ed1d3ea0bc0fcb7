/-
**How far rounding can carry a number.**

Rounding a quotient to the floating-point format makes it greater by at most one unit of the last
place, which is a small part of the quotient or less than one.  So a chain of rounded operations
stays near the exact result, and as long as that stays below the greatest number of the format the
chain does not break off.

Main definitions:

* `ContactBook.Decimal.Magnitude.value` — the number that a magnitude is;
* `ContactBook.Decimal.Magnitude.atExponent`, `roundingExponent` — a quotient, rounded to a multiple
  of a power of two, and the power that is taken.

Main results:

* `ContactBook.Decimal.Magnitude.roundingExponent_le` — the unit of the last place is a small part
  of the quotient;
* `ContactBook.Decimal.Magnitude.exists_ofRatio_le` — **a quotient that the format reaches can be
  rounded, and does not become much greater**.
-/

import ContactBook.Decimal.Binary64
import Mathlib.Algebra.Order.Field.Power
import Mathlib.Algebra.Order.Ring.Rat
import Mathlib.Data.Nat.Cast.Order.Field
import Mathlib.Tactic.FieldSimp
import Mathlib.Tactic.Linarith
import Mathlib.Tactic.Positivity
import Mathlib.Tactic.Ring

set_option autoImplicit false

namespace ContactBook.Decimal.Magnitude

/-! ### Values -/

/-- The number that a magnitude is. -/
def value (x : Magnitude) : ℚ := x.significand * 2 ^ x.exponent

theorem value_zero : zero.value = 0 := by simp [value, zero]

/-- A magnitude is the quotient of the numbers that stand for it. -/
theorem ratio_value (x : Magnitude) : 0 < x.ratio.2 ∧ (x.ratio.1 : ℚ) / x.ratio.2 = x.value := by
  obtain ⟨significand, exponent⟩ := x
  simp only [ratio, value, Nat.pow_eq]
  split
  next h =>
    obtain ⟨k, rfl⟩ : ∃ k : Nat, exponent = -(k : Int) := ⟨(-exponent).toNat, by omega⟩
    refine ⟨Nat.pow_pos (by decide), ?_⟩
    simp [zpow_neg, div_eq_mul_inv]
  next h =>
    obtain ⟨k, rfl⟩ := Int.eq_ofNat_of_zero_le (Int.not_lt.1 h)
    exact ⟨Nat.one_pos, by simp⟩

/-! ### One rounding -/

theorem roundDiv_le (num den : Nat) : roundDiv num den ≤ num / den + 1 := by
  unfold roundDiv
  simp only
  split <;> omega

/-- The scaled fraction is the quotient divided by the power of two. -/
theorem scaledBy_value {den : Nat} (hden : 0 < den) (num : Nat) (e : Int) :
    0 < (scaledBy num den e).2 ∧
      ((scaledBy num den e).1 : ℚ) / (scaledBy num den e).2 = num / den / 2 ^ e := by
  simp only [scaledBy, Nat.pow_eq]
  split
  next h =>
    obtain ⟨k, rfl⟩ : ∃ k : Nat, e = -(k : Int) := ⟨(-e).toNat, by omega⟩
    refine ⟨hden, ?_⟩
    simp [zpow_neg, div_inv_eq_mul, mul_div_right_comm]
  next h =>
    obtain ⟨k, rfl⟩ := Int.eq_ofNat_of_zero_le (Int.not_lt.1 h)
    exact ⟨Nat.mul_pos hden (Nat.pow_pos (by decide)), by simp [div_div]⟩

/-- A quotient, rounded to a multiple of a power of two. -/
def atExponent (num den : Nat) (e : Int) : Magnitude :=
  let (a, b) := scaledBy num den e
  let s := roundDiv a b
  if s == Nat.pow 2 53 then ⟨Nat.pow 2 52, e + 1⟩ else ⟨s, e⟩

variable {num den : Nat} {e : Int}

/-- It is at most one such multiple more than the quotient. -/
theorem value_atExponent_le (hden : 0 < den) :
    (atExponent num den e).value ≤ num / den + 2 ^ e := by
  obtain ⟨-, hvalue⟩ := scaledBy_value hden num e
  generalize hab : scaledBy num den e = ab at hvalue
  have hround : (roundDiv ab.1 ab.2 : ℚ) ≤ num / den / 2 ^ e + 1 := by
    have hdiv : (roundDiv ab.1 ab.2 : ℚ) ≤ (ab.1 / ab.2 : Nat) + 1 := by
      exact_mod_cast roundDiv_le ab.1 ab.2
    have hfloor : ((ab.1 / ab.2 : Nat) : ℚ) ≤ ab.1 / ab.2 := Nat.cast_div_le
    rw [← hvalue]
    linarith
  have hpos : (0 : ℚ) < 2 ^ e := by positivity
  have hsame : (atExponent num den e).value = roundDiv ab.1 ab.2 * 2 ^ e := by
    simp only [atExponent, hab]
    split
    next heq =>
      rw [beq_iff_eq.1 heq, value, zpow_add_one₀ two_ne_zero]
      norm_num
      ring
    next => rfl
  rw [hsame]
  calc (roundDiv ab.1 ab.2 : ℚ) * 2 ^ e ≤ (num / den / 2 ^ e + 1) * 2 ^ e :=
        mul_le_mul_of_nonneg_right hround hpos.le
    _ = num / den + 2 ^ e := by field_simp

/-- The exponent is the one that was meant, or the next if the significand has become too great. -/
theorem exponent_atExponent_le (num den : Nat) (e : Int) :
    (atExponent num den e).exponent ≤ e + 1 := by
  simp only [atExponent]
  split
  · exact Int.le_refl _
  · exact (Int.lt_succ e).le

/-- The significand has not become too great if the quotient was a little less. -/
theorem exponent_atExponent_of_lt (hden : 0 < den)
    (h : (num : ℚ) / den < (2 ^ 53 - 1) * 2 ^ e) : (atExponent num den e).exponent = e := by
  obtain ⟨-, hvalue⟩ := scaledBy_value hden num e
  generalize hab : scaledBy num den e = ab at hvalue
  have hpos : (0 : ℚ) < 2 ^ e := by positivity
  have hfloor : ((ab.1 / ab.2 : Nat) : ℚ) < 2 ^ 53 - 1 := by
    have hdiv : ((ab.1 / ab.2 : Nat) : ℚ) ≤ ab.1 / ab.2 := Nat.cast_div_le
    rw [hvalue] at hdiv
    exact lt_of_le_of_lt hdiv ((div_lt_iff₀ hpos).2 h)
  have hless : ab.1 / ab.2 < 2 ^ 53 - 1 := by
    rw [← Nat.cast_lt (α := ℚ)]
    norm_num at hfloor ⊢
    exact hfloor
  have hround := roundDiv_le ab.1 ab.2
  have hne : (roundDiv ab.1 ab.2 == Nat.pow 2 53) = false := by
    refine beq_eq_false_iff_ne.2 (Nat.ne_of_lt ?_)
    have hpow : Nat.pow 2 53 = 2 ^ 53 := rfl
    omega
  simp only [atExponent, hab, hne, Bool.false_eq_true, if_false]

/-! ### The power of two -/

/-- A quotient is at least the power of two by which its numbers differ in length. -/
theorem two_zpow_le_div (hden : 0 < den) (hnum : num ≠ 0) :
    (2 : ℚ) ^ ((num.log2 : Int) - (den.log2 : Int) - 1) ≤ num / den := by
  have hlow : (2 : ℚ) ^ num.log2 ≤ num := by exact_mod_cast Nat.log2_self_le hnum
  have hhigh : (den : ℚ) ≤ 2 ^ (den.log2 + 1) := by exact_mod_cast Nat.lt_log2_self.le
  have hpos : (0 : ℚ) < den := by exact_mod_cast hden
  have hexp : (num.log2 : Int) - (den.log2 : Int) - 1 =
      (num.log2 : Int) - ((den.log2 + 1 : Nat) : Int) := by omega
  rw [hexp, zpow_sub₀ two_ne_zero, zpow_natCast, zpow_natCast]
  exact div_le_div₀ (Nat.cast_nonneg num) hlow hpos hhigh

/-- The exponent that a quotient is rounded at. -/
def roundingExponent (num den : Nat) : Int :=
  let low := max leastExponent ((num.log2 : Int) - (den.log2 : Int) - 53)
  let (a, b) := scaledBy num den low
  if Nat.pow 2 53 * b ≤ a then low + 1 else low

theorem ofRatio_eq (hnum : num ≠ 0) (den : Nat) :
    ofRatio num den =
      if greatestExponent < (atExponent num den (roundingExponent num den)).exponent then none
      else some (atExponent num den (roundingExponent num den)) := by
  rw [ofRatio, if_neg (by simpa using hnum)]
  rfl

/-- **A unit of the last place is a small part of the quotient**, or the least there is. -/
theorem roundingExponent_le (hden : 0 < den) (hnum : num ≠ 0) :
    (2 : ℚ) ^ (roundingExponent num den + 52) ≤ num / den ∨
      roundingExponent num den = leastExponent := by
  simp only [roundingExponent]
  generalize hlow : max leastExponent ((num.log2 : Int) - (den.log2 : Int) - 53) = low
  obtain ⟨hb, hvalue⟩ := scaledBy_value hden num low
  split
  next hgreat =>
    -- the quotient has one binary digit more
    left
    have hpos : (0 : ℚ) < 2 ^ low := by positivity
    have hratio : (2 : ℚ) ^ 53 ≤ num / den / 2 ^ low := by
      rw [← hvalue, le_div_iff₀ (by exact_mod_cast hb)]
      exact_mod_cast hgreat
    have hexp : (2 : ℚ) ^ (low + 1 + 52) = 2 ^ 53 * 2 ^ low := by
      rw [add_assoc, add_comm, zpow_add₀ two_ne_zero]
      norm_num
    rw [hexp]
    exact (le_div_iff₀ hpos).1 hratio
  next =>
    rcases max_choice leastExponent ((num.log2 : Int) - (den.log2 : Int) - 53) with h | h
    · exact .inr (hlow.symm.trans h)
    · left
      have hexp : low + 52 = (num.log2 : Int) - (den.log2 : Int) - 1 := by omega
      rw [hexp]
      exact two_zpow_le_div hden hnum

/-- Below this the format reaches every quotient: the greatest number of the format, less its last
unit. -/
def limit : ℚ := 2 ^ 1024 - 2 ^ 971

/-- **A quotient that the format reaches can be rounded, and does not become much greater.** -/
theorem exists_ofRatio_le (hden : 0 < den) (h : (num : ℚ) / den < limit) :
    ∃ x, ofRatio num den = some x ∧ x.value ≤ num / den * (1 + 1 / 2 ^ 52) + 1 := by
  by_cases hnum : num = 0
  · subst hnum
    exact ⟨zero, rfl, by norm_num [value_zero]⟩
  have hround := ofRatio_eq hnum den
  have he := roundingExponent_le hden hnum
  generalize roundingExponent num den = e at hround he
  have hnonneg : (0 : ℚ) ≤ num / den := by positivity
  have hexponent : ¬greatestExponent < (atExponent num den e).exponent := by
    rw [not_lt, greatestExponent]
    rw [limit] at h
    have hnext := exponent_atExponent_le num den e
    rcases he with he | rfl
    · have hlt : (2 : ℚ) ^ (e + 52) < 2 ^ (1024 : Int) := by
        refine lt_of_le_of_lt he (lt_trans h ?_)
        norm_num
      have hless := (zpow_lt_zpow_iff_right₀ one_lt_two).1 hlt
      rcases lt_or_eq_of_le (show e ≤ 971 by omega) with hless | rfl
      · omega
      · have hmost : (2 : ℚ) ^ 1024 - 2 ^ 971 = (2 ^ 53 - 1) * 2 ^ (971 : Int) := by
          rw [show (971 : Int) = (971 : Nat) by rfl, zpow_natCast, sub_mul, one_mul, ← pow_add]
        rw [exponent_atExponent_of_lt hden (lt_of_lt_of_eq h hmost)]
    · rw [leastExponent] at hnext
      rw [leastExponent]
      omega
  have hunit : (2 : ℚ) ^ e ≤ num / den * (1 / 2 ^ 52) + 1 := by
    rcases he with he | rfl
    · rw [zpow_add₀ two_ne_zero] at he
      norm_num at he ⊢
      linarith
    · have hone : (2 : ℚ) ^ leastExponent ≤ 1 := zpow_le_one_of_nonpos₀ one_le_two (by decide)
      have hpart : (0 : ℚ) ≤ num / den * (1 / 2 ^ 52) := by positivity
      linarith
  refine ⟨_, hround.trans (if_neg hexponent), le_trans (value_atExponent_le hden) ?_⟩
  linarith

end ContactBook.Decimal.Magnitude
