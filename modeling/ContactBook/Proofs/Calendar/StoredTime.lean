/-
**Times that the store keeps can be read back.**

The store writes an instant as a text, and a listing reads the text back, field by field, with a
reader that lets pass much more than is ever written.  Of what is written it makes the instant
again, to the nanosecond, in every year that dates can have: the digits of a field end where the
next sign stands, a fraction of nothing, three, six or nine digits counts to nine places, and the
zone at the end is the universal one.

Main definitions:

* `ContactBook.Calendar.Instant.IsValid` — the instants that there are.

Main results:

* `ContactBook.Calendar.Instant.toList_stored` — the stored text, sign by sign;
* `ContactBook.Calendar.StoredTime.field_padded`, `year_yearChars`, `fraction_fractionChars` — each
  part is read as it was written;
* `ContactBook.Calendar.Instant.ofStored_stored`, `eq_of_stored_eq` — **a stored instant is read
  back as it was**, and no two have one text.
-/

import ContactBook.Calendar.StoredTime
import ContactBook.Proofs.Calendar.Date
import ContactBook.Proofs.Decimal.Natural
import ContactBook.Proofs.Text.Bytes

set_option autoImplicit false

namespace ContactBook.Calendar

open ContactBook.Decimal

/-! ### Instants and their text -/

namespace Instant

/-- **The instants that there are**: the day has a date, the second lies in the day and the
nanosecond in the second, and a leap second comes at the end of a minute. -/
structure IsValid (x : Instant) : Prop where
  dayInRange : StoredTime.dayInRange x.day = true
  second_lt : x.second < 86400
  nanosecond_lt : x.nanosecond < 1000000000 ∨ x.nanosecond < 2000000000 ∧ x.second % 60 = 59

theorem isValid_iff {x : Instant} :
    x.IsValid ↔ StoredTime.dayInRange x.day = true ∧ x.second < 86400 ∧
      (x.nanosecond < 1000000000 ∨ x.nanosecond < 2000000000 ∧ x.second % 60 = 59) :=
  ⟨fun h => ⟨h.dayInRange, h.second_lt, h.nanosecond_lt⟩, fun h => ⟨h.1, h.2.1, h.2.2⟩⟩

instance (x : Instant) : Decidable x.IsValid := decidable_of_iff _ isValid_iff.symm

/-- The second of the minute as it is written, where a leap second is the second sixty. -/
def shownSecond (x : Instant) : Nat :=
  if nanosecondsInSecond ≤ x.nanosecond then x.second % 60 + 1 else x.second % 60

/-- The nanosecond as it is written. -/
def shownNanosecond (x : Instant) : Nat :=
  if nanosecondsInSecond ≤ x.nanosecond then x.nanosecond - nanosecondsInSecond else x.nanosecond

/-- What is written fits the fields: a leap second is the second sixty, and no fraction makes up a
whole second. -/
theorem shown_fits {x : Instant} (h : x.IsValid) :
    x.shownSecond ≤ 60 ∧ x.shownNanosecond < 1000000000 := by
  have hnanosecond := h.nanosecond_lt
  unfold shownSecond shownNanosecond nanosecondsInSecond
  split <;> omega

/-- The zone of stored texts. -/
def universalZone : List Char := ['+', '0', '0', ':', '0', '0']

/-- The stored text, sign by sign. -/
theorem toList_stored (x : Instant) :
    x.stored.toList =
      yearChars (Date.ofDayNumber x.day).year ++ '-' ::
        (padded 2 (Date.ofDayNumber x.day).month ++ '-' ::
          (padded 2 (Date.ofDayNumber x.day).day ++ ' ' ::
            (padded 2 (x.second / 3600) ++ ':' ::
              (padded 2 (x.second / 60 % 60) ++ ':' ::
                (padded 2 x.shownSecond ++
                  (fractionChars x.shownNanosecond ++ universalZone)))))) := by
  simp [stored, chars, dateChars, timeChars, shownSecond, shownNanosecond, universalZone]

end Instant

/-! ### The parts of a text -/

/-- The digits of a fraction count to nine places. -/
theorem nanosecondsOf_padded {width n : Nat} (hw : 0 < width) (hnine : width ≤ 9)
    (hn : n < 10 ^ width) : nanosecondsOf (padded width n) = n * 10 ^ (9 - width) := by
  have hlength := length_padded hw hn
  rw [nanosecondsOf, List.take_of_length_le (by omega)]
  simp only [numberOf_padded, hlength]
  rfl

namespace StoredTime

/-- A number is read from the digits that are taken. -/
theorem number_of_taken {limit : Option Nat} {cs digits : List Char}
    (htaken : (limit.elim cs cs.take).takeWhile Char.isDigit = digits) (hne : digits ≠ [])
    (hn : numberOf digits ≤ greatestNumber) :
    number limit cs = .ok (numberOf digits, cs.drop digits.length) := by
  have hcs : cs ≠ [] := by
    rintro rfl
    cases limit <;> exact hne (by simpa using htaken.symm)
  cases limit with
  | none =>
      rw [Option.elim_none] at htaken
      simp only [number, htaken, List.isEmpty_iff, hcs, hne, if_false, if_neg (Nat.not_lt.2 hn)]
  | some most =>
      rw [Option.elim_some] at htaken
      simp only [number, htaken, List.isEmpty_iff, hcs, hne, if_false, if_neg (Nat.not_lt.2 hn)]

/-- A padded number is read up to the next sign, if the reader takes that many digits. -/
theorem number_padded {limit : Option Nat} {width n : Nat} {rest : List Char} (hrest : Stops rest)
    (hlimit : ∀ most ∈ limit, (padded width n).length ≤ most) (hn : n ≤ greatestNumber) :
    number limit (padded width n ++ rest) = .ok (n, rest) := by
  have hd : ∀ c ∈ padded width n, c.isDigit = true := fun _ => isDigit_of_mem_padded
  have htaken : (limit.elim (padded width n ++ rest) (padded width n ++ rest).take).takeWhile
      Char.isDigit = padded width n := by
    cases limit with
    | none => exact takeWhile_isDigit_append hd hrest
    | some most =>
        rw [Option.elim_some, List.take_append, List.take_of_length_le (hlimit most rfl)]
        exact takeWhile_isDigit_append hd (hrest.take _)
  rw [number_of_taken htaken (padded_ne_nil width n) (by rwa [numberOf_padded]), numberOf_padded,
    List.drop_left]

theorem isBlank_of_isDigit {c : Char} (h : c.isDigit = true) : Text.isBlank c = false := by
  have hrange := Char.isDigit_iff_toNat.1 h
  have hzero : '0'.toNat = 48 := rfl
  have hnine : '9'.toNat = 57 := rfl
  rw [hzero, hnine] at hrange
  simp only [Text.isBlank, Bool.or_eq_false_iff, Bool.and_eq_false_iff, decide_eq_false_iff_not,
    beq_eq_false_iff_ne]
  omega

/-- Blanks end where a padded number begins. -/
theorem skipBlank_padded (width n : Nat) (rest : List Char) :
    skipBlank (padded width n ++ rest) = padded width n ++ rest := by
  obtain ⟨c, digits, hdigits, hc⟩ := exists_cons_padded width n
  simp [hdigits, skipBlank, isBlank_of_isDigit hc]

/-- A field is read as it was written. -/
theorem field_padded {least greatest n : Nat} {rest : List Char} (hrest : Stops rest)
    (hleast : least ≤ n) (hgreatest : n ≤ greatest) (hwidth : greatest < 100) :
    field least greatest (padded 2 n ++ rest) = .ok (n, rest) := by
  have hlength : (padded 2 n).length = 2 := length_padded (by decide) (by omega)
  have hgreat : (100 : Nat) ≤ greatestNumber := by decide
  have hnumber : number (some 2) (padded 2 n ++ rest) = .ok (n, rest) :=
    number_padded hrest (by simp [hlength]) (by omega)
  unfold field
  rw [skipBlank_padded, hnumber]
  have hin : (decide (n < least) || decide (greatest < n)) = false := by simp; omega
  simp only [bind, Except.bind, hin]
  rfl

@[simp] theorem exactly_cons (c : Char) (rest : List Char) : exactly c (c :: rest) = .ok rest := by
  simp [exactly]

/-- A blank stands between date and time. -/
theorem between_padded (width n : Nat) (rest : List Char) :
    between false (' ' :: (padded width n ++ rest)) = .ok (padded width n ++ rest) := by
  have hspace : skipBlank (' ' :: (padded width n ++ rest)) = skipBlank (padded width n ++ rest) :=
    rfl
  rw [between, if_neg Bool.false_ne_true, hspace, skipBlank_padded]

/-- A year of four digits is read as it was written. -/
theorem year_padded {n : Nat} {rest : List Char} (hn : n ≤ 9999) (hrest : Stops rest) :
    year (padded 4 n ++ rest) = .ok ((n : Int), rest) := by
  have hgreat : (9999 : Nat) ≤ greatestNumber := by decide
  have hyear : (9999 : Nat) ≤ greatestYear := by decide
  have hlength : (padded 4 n).length = 4 := length_padded (by decide) (by omega)
  have hnumber : number (some 4) (padded 4 n ++ rest) = .ok (n, rest) :=
    number_padded hrest (by simp [hlength]) (by omega)
  have hlt : ¬ greatestYear < n := by omega
  -- a digit is no sign
  obtain ⟨c, digits, hdigits, hc⟩ := exists_cons_padded 4 n
  have hminus : c ≠ '-' := ne_of_isDigit hc (by decide)
  have hplus : c ≠ '+' := ne_of_isDigit hc (by decide)
  unfold year
  rw [skipBlank_padded]
  simp only [hdigits, List.cons_append] at hnumber ⊢
  split
  · rename_i h
    exact absurd (List.cons.inj h).1 hminus
  · rename_i h
    exact absurd (List.cons.inj h).1 hplus
  · simp [hnumber, Except.map, bind, Except.bind, hlt, pure, Except.pure]

/-- A year is read as it was written, with its sign if it has one. -/
theorem year_yearChars {y : Int} {rest : List Char} (hy : yearInRange y = true)
    (hrest : Stops rest) : year (Instant.yearChars y ++ rest) = .ok (y, rest) := by
  have hrange : -262143 ≤ y ∧ y ≤ 262142 := by simpa [yearInRange] using hy
  have hyear : (262143 : Nat) ≤ greatestYear := by decide
  have hgreat : greatestYear ≤ greatestNumber := by decide
  have hnumber : ∀ n : Nat, n ≤ 262143 → number none (padded 4 n ++ rest) = .ok (n, rest) :=
    fun n hn => number_padded hrest (by simp) (by omega)
  unfold Instant.yearChars
  split
  · next hneg =>
      have hback : -(y.natAbs : Int) = y := by omega
      have hmagnitude : y.natAbs ≤ 262143 := by omega
      generalize y.natAbs = n at hback hmagnitude ⊢
      have hlt : ¬ greatestYear + 1 < n := by omega
      have hminus : skipBlank ('-' :: padded 4 n ++ rest) = '-' :: (padded 4 n ++ rest) := rfl
      unfold year
      rw [hminus]
      simp [hnumber n hmagnitude, Except.map, bind, Except.bind, hlt, pure, Except.pure, hback]
  · split
    · rw [year_padded (by omega) hrest, Int.toNat_of_nonneg (by omega)]
    · have hlt : ¬ greatestYear < y.toNat := by omega
      have hback : (y.toNat : Int) = y := by omega
      have hplus : skipBlank ('+' :: padded 4 y.toNat ++ rest) =
          '+' :: (padded 4 y.toNat ++ rest) :=
        rfl
      unfold year
      rw [hplus]
      simp [hnumber y.toNat (by omega), Except.map, bind, Except.bind, hlt, pure, Except.pure,
          hback]

/-- A fraction of so many digits is read as it was written. -/
theorem fraction_padded {width n : Nat} {rest : List Char} (hw : 0 < width) (hnine : width ≤ 9)
    (hn : n < 10 ^ width) (hrest : Stops rest) :
    fraction ('.' :: (padded width n ++ rest)) = .ok (n * 10 ^ (9 - width), rest) := by
  have hd : ∀ c ∈ padded width n, c.isDigit = true := fun _ => isDigit_of_mem_padded
  have hlength := length_padded hw hn
  have hgreat : (10 : Nat) ^ 9 ≤ greatestNumber := by decide
  have hpow : (10 : Nat) ^ width ≤ 10 ^ 9 := Nat.pow_le_pow_right (by decide) hnine
  have hnumber : number (some 9) (padded width n ++ rest) = .ok (n, rest) :=
    number_padded hrest (by simpa [hlength] using hnine) (by omega)
  unfold fraction
  simp only [hnumber, takeWhile_isDigit_append hd hrest, dropWhile_isDigit_append hd hrest,
    nanosecondsOf_padded hw hnine hn]
  rfl

/-- **A fraction is read as it was written**, whether it has nothing, three, six or nine digits. -/
theorem fraction_fractionChars {n : Nat} {rest : List Char} (hn : n < 1000000000)
    (hrest : Stops rest) (hpoint : rest.head? ≠ some '.') :
    fraction (Instant.fractionChars n ++ rest) = .ok (n, rest) := by
  unfold Instant.fractionChars
  simp only [beq_iff_eq]
  split
  · next hnone =>
      subst hnone
      cases rest with
      | nil => rfl
      | cons c rest =>
          have hc : c ≠ '.' := fun h => hpoint (h ▸ rfl)
          simp [fraction, hc]
  split
  · rw [List.cons_append, fraction_padded (by decide) (by decide) (by omega) hrest]
    exact congrArg (fun n => Except.ok (n, rest)) (by omega)
  split
  · rw [List.cons_append, fraction_padded (by decide) (by decide) (by omega) hrest]
    exact congrArg (fun n => Except.ok (n, rest)) (by omega)
  · rw [List.cons_append, fraction_padded (by decide) (by decide) (by omega) hrest]
    exact congrArg (fun n => Except.ok (n, rest)) (by omega)

theorem stops_fractionChars {n : Nat} {rest : List Char} (hrest : Stops rest) :
    Stops (Instant.fractionChars n ++ rest) := by
  have hpoint : ∀ digits : List Char, Stops ('.' :: digits ++ rest) :=
    fun _ => stops_cons (by decide)
  unfold Instant.fractionChars
  split
  · exact hrest
  split
  · exact hpoint _
  split
  · exact hpoint _
  · exact hpoint _

/-- **Date and time are read as they were written.** -/
theorem fields_written {f : Fields} {rest : List Char} (hyear : yearInRange f.date.year = true)
    (hmonth : 1 ≤ f.date.month ∧ f.date.month ≤ 12) (hday : 1 ≤ f.date.day ∧ f.date.day ≤ 31)
    (hhour : f.hour ≤ 23) (hminute : f.minute ≤ 59) (hsecond : f.second ≤ 60)
    (hnanosecond : f.nanosecond < 1000000000) (hrest : Stops rest)
    (hpoint : rest.head? ≠ some '.') :
    fields false (Instant.yearChars f.date.year ++ '-' ::
      (padded 2 f.date.month ++ '-' :: (padded 2 f.date.day ++ ' ' ::
        (padded 2 f.hour ++ ':' :: (padded 2 f.minute ++ ':' ::
          (padded 2 f.second ++ (Instant.fractionChars f.nanosecond ++ rest))))))) =
      .ok (f, rest) := by
  have hdash : ∀ cs : List Char, Stops ('-' :: cs) := fun _ => stops_cons (by decide)
  have hcolon : ∀ cs : List Char, Stops (':' :: cs) := fun _ => stops_cons (by decide)
  have hblank : ∀ cs : List Char, Stops (' ' :: cs) := fun _ => stops_cons (by decide)
  unfold fields
  simp only [bind, Except.bind, year_yearChars hyear (hdash _), exactly_cons,
    field_padded (hdash _) hmonth.1 hmonth.2 (by decide),
    field_padded (hblank _) hday.1 hday.2 (by decide), between_padded,
    field_padded (hcolon _) (Nat.zero_le _) hhour (by decide),
    field_padded (hcolon _) (Nat.zero_le _) hminute (by decide),
    field_padded (stops_fractionChars hrest) (Nat.zero_le _) hsecond (by decide),
    fraction_fractionChars hnanosecond hrest hpoint]
  rfl

/-- The years of the days in range are in range. -/
theorem yearInRange_ofDayNumber {day : Int} (h : dayInRange day = true) :
    yearInRange (Date.ofDayNumber day).year = true := by
  have hrange : (Date.mk (-262143) 1 1).dayNumber ≤ day ∧
      day ≤ (Date.mk 262142 12 31).dayNumber := by simpa [dayInRange] using h
  have hreal := Date.isReal_ofDayNumber day
  have hlow : ¬ (Date.ofDayNumber day).year < -262143 := by
    intro hyear
    have hlt := Date.dayNumber_lt_of_before hreal (by decide) (.inl hyear :
      (Date.ofDayNumber day).Before ⟨-262143, 1, 1⟩)
    rw [Date.dayNumber_ofDayNumber] at hlt
    omega
  have hhigh : ¬ 262142 < (Date.ofDayNumber day).year := by
    intro hyear
    have hlt := Date.dayNumber_lt_of_before (by decide) hreal (.inl hyear :
      (Date.mk 262142 12 31).Before (Date.ofDayNumber day))
    rw [Date.dayNumber_ofDayNumber] at hlt
    omega
  simp only [yearInRange, Bool.and_eq_true, decide_eq_true_eq]
  omega

end StoredTime

namespace Instant

open StoredTime

/-- The fields that the stored text of an instant has. -/
def fields (x : Instant) : Fields :=
  ⟨Date.ofDayNumber x.day, x.second / 3600, x.second / 60 % 60, x.shownSecond, x.shownNanosecond⟩

/-- A universal date and time of day are those of the instant. -/
theorem ofLocal_ofDayNumber {x : Instant} (h : x.second < 86400) :
    ofLocal (Date.ofDayNumber x.day) x.second x.nanosecond 0 = x := by
  obtain ⟨day, second, nanosecond⟩ := x
  simp only [ofLocal, Date.dayNumber_ofDayNumber, secondsInDay, Instant.mk.injEq, and_true] at h ⊢
  omega

/-- The fields make the instant again. -/
theorem instant_fields {x : Instant} (h : x.IsValid) : x.fields.instant 0 = .ok x := by
  have hsecond := h.second_lt
  have hreal := Date.isReal_ofDayNumber x.day
  have hyear := yearInRange_ofDayNumber h.dayInRange
  -- a second sixty is a leap second, whose nanoseconds go on from those of the second before
  have htime : (if x.shownSecond = 60 then
      (x.second / 3600 * 60 + x.second / 60 % 60) * 60 + 59 = x.second ∧
        x.shownNanosecond + nanosecondsInSecond = x.nanosecond
    else (x.second / 3600 * 60 + x.second / 60 % 60) * 60 + x.shownSecond = x.second ∧
      x.shownNanosecond = x.nanosecond) := by
    have hnanosecond := h.nanosecond_lt
    unfold shownSecond shownNanosecond nanosecondsInSecond
    split <;> split <;> omega
  unfold Fields.instant fields
  simp only [hreal, hyear, Bool.not_true, Bool.or_self, Bool.false_eq_true, if_false, beq_iff_eq]
  split at htime
  · next hsixty =>
      rw [if_pos hsixty, htime.1, htime.2, ofLocal_ofDayNumber hsecond]
  · next hsixty =>
      rw [if_neg hsixty, htime.1, htime.2, ofLocal_ofDayNumber hsecond]

theorem not_mem_padded {c : Char} (h : c.isDigit = false) (width n : Nat) : c ∉ padded width n :=
  fun hmem => Bool.false_ne_true (h.symm.trans (isDigit_of_mem_padded hmem))

/-- No part of a stored text has a `T`. -/
theorem not_hasT_stored (x : Instant) : hasT x.stored = false := by
  have hpadded := not_mem_padded (by decide : 'T'.isDigit = false)
  have hyear : ∀ year, 'T' ∉ yearChars year := by
    intro year
    unfold yearChars
    repeat' split
    all_goals simp [hpadded]
  have hfraction : ∀ n, 'T' ∉ fractionChars n := by
    intro n
    unfold fractionChars
    repeat' split
    all_goals simp [hpadded]
  have hstored : 'T' ∉ x.stored.toList := by
    rw [toList_stored]
    simp [hpadded, hyear, hfraction, universalZone]
  unfold hasT
  rw [Text.Utf8.toList_toUTF8, beq_eq_false_iff_ne]
  intro hbyte
  exact hstored (Text.Utf8.mem_of_byte_mem_encode (by decide) (List.mem_of_getElem? hbyte))

/-- **A stored instant is read back as it was.** -/
theorem ofStored_stored {x : Instant} (h : x.IsValid) : ofStored x.stored = .ok x := by
  have hreal := Date.isReal_iff.1 (Date.isReal_ofDayNumber x.day)
  have hsecond := h.second_lt
  have hhour : x.second / 3600 ≤ 23 := by omega
  have hminute : x.second / 60 % 60 ≤ 59 := by omega
  obtain ⟨hshown, hfraction⟩ := shown_fits h
  have hday : (Date.ofDayNumber x.day).day ≤ 31 :=
    Nat.le_trans hreal.2.2.2 (Date.daysInMonth_le _ _)
  have hfields : StoredTime.fields false x.stored.toList = .ok (x.fields, universalZone) := by
    have hstops : Stops universalZone := stops_cons (by decide)
    have hwritten := fields_written (f := x.fields) (yearInRange_ofDayNumber h.dayInRange)
      ⟨hreal.1, hreal.2.1⟩ ⟨hreal.2.2.1, hday⟩ hhour hminute hshown hfraction hstops (by decide)
    rwa [toList_stored]
  have hzone : StoredTime.zone? universalZone = some 0 := by decide
  have hzoned : zoned? false x.stored.toList = some x := by
    simp [zoned?, hfields, hzone, Except.toOption, instant_fields h, h.dayInRange]
  unfold ofStored
  simp only [not_hasT_stored, hzoned]

/-- A text of the store stands for one instant. -/
theorem eq_of_stored_eq {x y : Instant} (hx : x.IsValid) (hy : y.IsValid)
    (h : x.stored = y.stored) : x = y := by
  have hread := ofStored_stored hx
  rw [h, ofStored_stored hy] at hread
  exact (Except.ok.inj hread).symm

end Instant

end ContactBook.Calendar
