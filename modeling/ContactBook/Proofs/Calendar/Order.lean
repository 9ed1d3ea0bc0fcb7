/-
**The order of stored times.**

The store keeps times as texts and orders them as texts.  For times in the years that four digits
write this is the order of the times: every field has its fixed number of digits, the fields come
from the greatest to the least, and a leap second is written as the second sixty.  Only the fraction
has no fixed length.  It ends after nothing, three, six or nine digits, and then the sign of the
zone follows, which comes before the point and before every digit; so a fraction that ends counts as
less than one that goes on.

Main definitions:

* `ContactBook.Calendar.Instant.Before` — the order of instants;
* `ContactBook.Calendar.Instant.InFourDigits` — the instants in the years from 0 to 9999;
* `ContactBook.Calendar.Instant.fractionTail` — a fraction and the zone, group by group.

Main results:

* `ContactBook.Calendar.Instant.fraction_lt_iff` — fractions are ordered as their nanoseconds;
* `ContactBook.Calendar.Instant.stored_lt_iff` — **stored times are ordered as the instants**.
-/

import ContactBook.Proofs.Calendar.StoredTime

set_option autoImplicit false

namespace ContactBook.Calendar.Instant

open ContactBook.Decimal

/-! ### Fractions -/

/-- A fraction of so many groups of three digits, as far as it is not zero, and the zone. -/
def fractionTail : Nat → Nat → List Char
  | 0, _ => universalZone
  | groups + 1, n =>
    if n = 0 then universalZone
    else padded 3 (n / 1000 ^ groups) ++ fractionTail groups (n % 1000 ^ groups)

/-- A fraction of nothing is written as nothing. -/
@[simp] theorem fractionTail_zero (groups : Nat) : fractionTail groups 0 = universalZone := by
  cases groups <;> rfl

theorem fractionTail_succ {groups n : Nat} (h : n ≠ 0) :
    fractionTail (groups + 1) n =
      padded 3 (n / 1000 ^ groups) ++ fractionTail groups (n % 1000 ^ groups) := by
  rw [fractionTail, if_neg h]

theorem padded_six {n : Nat} (h : n < 1000000) :
    padded 6 n = padded 3 (n / 1000) ++ padded 3 (n % 1000) := by
  change padded (3 + 3) n = _
  exact padded_add (by decide) (by decide) h

theorem padded_nine {n : Nat} (h : n < 1000000000) :
    padded 9 n = padded 6 (n / 1000) ++ padded 3 (n % 1000) := by
  change padded (6 + 3) n = _
  exact padded_add (by decide) (by decide) h

/-- The fraction and the zone of a stored text, group by group. -/
theorem fractionChars_append {n : Nat} (hn : n < 1000000000) :
    fractionChars n ++ universalZone =
      if n = 0 then universalZone else '.' :: fractionTail 3 n := by
  unfold fractionChars
  simp only [beq_iff_eq]
  split
  · rfl
  next hzero =>
    rw [fractionTail_succ hzero]
    split
    next hmillis => simp [hmillis]
    next hmillis =>
      have hrest : n % 1000 ^ 2 ≠ 0 := hmillis
      have hfirst : n / 1000 ^ 2 = n / 1000 / 1000 := by omega
      have hsecond : n % 1000 ^ 2 / 1000 ^ 1 = n / 1000 % 1000 := by omega
      have hthird : n % 1000 ^ 2 % 1000 ^ 1 = n % 1000 := by omega
      rw [fractionTail_succ hrest, hfirst, hsecond, hthird]
      split
      next hmicros => simp [hmicros, padded_six (n := n / 1000) (by omega)]
      next hmicros =>
        rw [fractionTail_succ hmicros, padded_nine hn, padded_six (by omega)]
        simp [fractionTail]

/-- The sign of the zone comes before every digit. -/
theorem universalZone_lt_padded (width n : Nat) (rest : List Char) :
    universalZone < padded width n ++ rest := by
  obtain ⟨c, digits, hdigits, hc⟩ := Decimal.exists_cons_padded width n
  have hsign : '+' < c := by
    have hdigit := (Char.isDigit_iff_toNat.1 hc).1
    have hplus : '+'.toNat < '0'.toNat := by decide
    exact Char.lt_def.2 (UInt32.lt_iff_toNat_lt.2 (Nat.lt_of_lt_of_le hplus hdigit))
  rw [hdigits, List.cons_append]
  exact List.Lex.rel hsign

/-- Numbers are ordered as their quotients, and by what remains where these are equal. -/
theorem div_lt_or_mod_lt_iff (n m : Nat) {k : Nat} (hk : 0 < k) :
    n / k < m / k ∨ n / k = m / k ∧ n % k < m % k ↔ n < m := by
  have hn := Nat.div_add_mod n k
  have hm := Nat.div_add_mod m k
  have hmod := Nat.mod_lt n hk
  have hmod' := Nat.mod_lt m hk
  constructor
  · rintro (hlt | ⟨heq, hlt⟩)
    · exact Nat.lt_of_div_lt_div hlt
    · rw [heq] at hn
      omega
  · intro hlt
    rcases Nat.lt_or_eq_of_le (Nat.div_le_div_right (c := k) (Nat.le_of_lt hlt)) with hdiv | hdiv
    · exact .inl hdiv
    · refine .inr ⟨hdiv, ?_⟩
      rw [hdiv] at hn
      omega

/-- Groups of digits are ordered as their numbers. -/
theorem fractionTail_lt_iff {groups n m : Nat} (hn : n < 1000 ^ groups) (hm : m < 1000 ^ groups) :
    fractionTail groups n < fractionTail groups m ↔ n < m := by
  induction groups generalizing n m with
  | zero =>
      have heq : n = m := by omega
      rw [heq]
      exact iff_of_false (List.lt_irrefl _) (Nat.lt_irrefl _)
  | succ groups ih =>
      by_cases hzero : n = 0
      · subst hzero
        rw [fractionTail_zero]
        by_cases hzero' : m = 0
        · subst hzero'
          rw [fractionTail_zero]
          exact iff_of_false (List.lt_irrefl _) (Nat.lt_irrefl _)
        · rw [fractionTail_succ hzero']
          exact iff_of_true (universalZone_lt_padded _ _ _) (by omega)
      · rw [fractionTail_succ hzero]
        by_cases hzero' : m = 0
        · subst hzero'
          rw [fractionTail_zero]
          exact iff_of_false (List.lt_asymm (universalZone_lt_padded _ _ _)) (by omega)
        · have hpos : 0 < 1000 ^ groups := Nat.pow_pos (by decide)
          have hfirst : n / 1000 ^ groups < 1000 := Nat.div_lt_of_lt_mul (by rwa [← Nat.pow_succ])
          have hfirst' : m / 1000 ^ groups < 1000 := Nat.div_lt_of_lt_mul (by rwa [← Nat.pow_succ])
          rw [fractionTail_succ hzero', padded_append_lt_iff (by decide) hfirst hfirst',
            ih (Nat.mod_lt _ hpos) (Nat.mod_lt _ hpos)]
          exact div_lt_or_mod_lt_iff n m hpos

/-- **Fractions are ordered as their nanoseconds.** -/
theorem fraction_lt_iff {n m : Nat} (hn : n < 1000000000) (hm : m < 1000000000) :
    fractionChars n ++ universalZone < fractionChars m ++ universalZone ↔ n < m := by
  have hpoint : ∀ cs : List Char, universalZone < '.' :: cs :=
    fun cs => List.Lex.rel (by decide : '+' < '.')
  rw [fractionChars_append hn, fractionChars_append hm]
  split
  next hzero =>
    subst hzero
    split
    next hzero' =>
      subst hzero'
      exact iff_of_false (List.lt_irrefl _) (Nat.lt_irrefl _)
    next hzero' => exact iff_of_true (hpoint _) (by omega)
  next hzero =>
    split
    next hzero' =>
      subst hzero'
      exact iff_of_false (List.lt_asymm (hpoint _)) (by omega)
    next hzero' =>
      rw [List.cons_lt_cons_self, fractionTail_lt_iff (by omega) (by omega)]

/-! ### Stored times -/

/-- The order of instants: by day, second and nanosecond.  The nanoseconds of a leap second are more
than those of the second before. -/
def Before (x y : Instant) : Prop :=
  x.day < y.day ∨ x.day = y.day ∧
    (x.second < y.second ∨ x.second = y.second ∧ x.nanosecond < y.nanosecond)

/-- Whether four digits write the year of an instant. -/
def InFourDigits (x : Instant) : Prop :=
  0 ≤ (Date.ofDayNumber x.day).year ∧ (Date.ofDayNumber x.day).year ≤ 9999

instance (x : Instant) : Decidable x.InFourDigits :=
  inferInstanceAs (Decidable (0 ≤ (Date.ofDayNumber x.day).year ∧ _))

/-- The time of day comes in the order in which it is written. -/
theorem time_before_iff {x y : Instant} (hx : x.IsValid) (hy : y.IsValid) :
    x.second / 3600 < y.second / 3600 ∨ x.second / 3600 = y.second / 3600 ∧
      (x.second / 60 % 60 < y.second / 60 % 60 ∨ x.second / 60 % 60 = y.second / 60 % 60 ∧
        (x.shownSecond < y.shownSecond ∨ x.shownSecond = y.shownSecond ∧
          x.shownNanosecond < y.shownNanosecond)) ↔
      x.second < y.second ∨ x.second = y.second ∧ x.nanosecond < y.nanosecond := by
  have hx' := hx.nanosecond_lt
  have hy' := hy.nanosecond_lt
  unfold shownSecond shownNanosecond nanosecondsInSecond
  split <;> split <;> omega

/-- **Stored times are ordered as the instants.** -/
theorem stored_lt_iff {x y : Instant} (hx : x.IsValid) (hy : y.IsValid) (hxyear : x.InFourDigits)
    (hyyear : y.InFourDigits) : x.stored < y.stored ↔ x.Before y := by
  have hyearChars : ∀ {year : Int}, 0 ≤ year ∧ year ≤ 9999 →
      yearChars year = padded 4 year.toNat ∧ year.toNat < 10 ^ 4 := by
    intro year h
    rw [yearChars, if_neg (by omega), if_pos h.2]
    exact ⟨rfl, by omega⟩
  obtain ⟨hxchars, hxdigits⟩ := hyearChars hxyear
  obtain ⟨hychars, hydigits⟩ := hyearChars hyyear
  obtain ⟨hxfirst, hxlast, -, hxday⟩ := Date.isReal_iff.1 (Date.isReal_ofDayNumber x.day)
  obtain ⟨hyfirst, hylast, -, hyday⟩ := Date.isReal_iff.1 (Date.isReal_ofDayNumber y.day)
  have hxmonth := Date.daysInMonth_le (Date.ofDayNumber x.day).year (Date.ofDayNumber x.day).month
  have hymonth := Date.daysInMonth_le (Date.ofDayNumber y.day).year (Date.ofDayNumber y.day).month
  have hxsecond := hx.second_lt
  have hysecond := hy.second_lt
  obtain ⟨hxshown, hxfraction⟩ := shown_fits hx
  obtain ⟨hyshown, hyfraction⟩ := shown_fits hy
  -- field by field, from the year to the fraction
  change x.stored.toList < y.stored.toList ↔ _
  rw [toList_stored, toList_stored, hxchars, hychars,
    padded_append_lt_iff (by decide) hxdigits hydigits, List.cons_lt_cons_self,
    padded_append_lt_iff (by decide) (by omega) (by omega), List.cons_lt_cons_self,
    padded_append_lt_iff (by decide) (by omega) (by omega), List.cons_lt_cons_self,
    padded_append_lt_iff (by decide) (by omega) (by omega), List.cons_lt_cons_self,
    padded_append_lt_iff (by decide) (by omega) (by omega), List.cons_lt_cons_self,
    padded_append_lt_iff (by decide) (by omega) (by omega), fraction_lt_iff hxfraction hyfraction,
    time_before_iff hx hy]
  -- the date comes in the order of the calendar, which is that of the count
  unfold Before
  unfold InFourDigits at hxyear hyyear
  rcases Int.lt_trichotomy x.day y.day with hlt | heq | hgt
  · have hdate := Date.before_ofDayNumber_iff.2 hlt
    unfold Date.Before at hdate
    exact iff_of_true (by omega) (.inl hlt)
  · simp [heq]
  · have hdate := Date.before_ofDayNumber_iff.2 hgt
    unfold Date.Before at hdate
    refine iff_of_false ?_ (by omega)
    rintro (h | ⟨h, h' | ⟨h', h'' | ⟨h'', -⟩⟩⟩) <;> omega

end ContactBook.Calendar.Instant
