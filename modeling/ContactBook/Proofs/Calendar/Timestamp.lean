/-
**Timestamps.**

A timestamp in the form of RFC 3339 has a date, a time of day to the second or finer, and a zone.
This module has timestamps as data: the text of each, and the instant that it denotes.  The reader
of requests makes that instant of that text.  What the store keeps of an instant has the same form,
in whatever year.

Main definitions:

* `ContactBook.Calendar.Timestamp`, `ContactBook.Calendar.Zone` — timestamps and their zones;
* `ContactBook.Calendar.Timestamp.HasClock`, `ContactBook.Calendar.Timestamp.IsWritten` — the times
  of day and the timestamps that there are;
* `ContactBook.Calendar.Timestamp.text`, `ContactBook.Calendar.Timestamp.instant` — **the text of a
  timestamp and the instant that it denotes**;
* `ContactBook.Calendar.Instant.timestamp` — an instant as the store writes it.

Main results:

* `ContactBook.Calendar.Timestamp.ofRfc3339?_text` — **the text is read as the instant**;
* `ContactBook.Calendar.Instant.text_timestamp`, `instant_timestamp` — what the store keeps is the
  text of a timestamp that denotes the instant.
-/

import ContactBook.Calendar.Rfc3339
import ContactBook.Proofs.Calendar.Order

set_option autoImplicit false

namespace ContactBook.Calendar

open ContactBook.Decimal

/-! ### Timestamps as data -/

/-- The text of a date. -/
def Date.text (d : Date) : String := String.ofList (Instant.dateChars d)

/-- The zone of a timestamp: universal time, as one of two letters, or a distance from it. -/
inductive Zone where
  | universal (letter : Char)
  | ahead (hour minute : Nat)
  | behind (hour minute : Nat)

namespace Zone

/-- The text of a zone. -/
def chars : Zone → List Char
  | universal letter => [letter]
  | ahead hour minute => '+' :: (padded 2 hour ++ ':' :: padded 2 minute)
  | behind hour minute => '-' :: (padded 2 hour ++ ':' :: padded 2 minute)

/-- How many minutes a zone is ahead of universal time. -/
def minutes : Zone → Int
  | universal _ => 0
  | ahead hour minute => hour * 60 + minute
  | behind hour minute => -(hour * 60 + minute)

/-- The zones that there are, with distances of so many hours at most. -/
def IsWritten (hours : Nat) : Zone → Prop
  | universal letter => letter = 'Z' ∨ letter = 'z'
  | ahead hour minute | behind hour minute => hour ≤ hours ∧ minute ≤ 59

instance (hours : Nat) : DecidablePred (IsWritten hours)
  | universal letter => inferInstanceAs (Decidable (letter = 'Z' ∨ letter = 'z'))
  | ahead hour minute | behind hour minute =>
    inferInstanceAs (Decidable (hour ≤ hours ∧ minute ≤ 59))

end Zone

/-- A timestamp: a date, a time of day with the digits of its fraction, and a zone. -/
structure Timestamp where
  date : Date
  separator : Char
  hour : Nat
  minute : Nat
  second : Nat
  fraction : List Char
  zone : Zone

namespace Timestamp

/-- The text of a fraction, which has a point if there is one. -/
def fractionText (digits : List Char) : List Char := if digits.isEmpty then [] else '.' :: digits

/-- The text of what follows the minutes. -/
def secondChars (t : Timestamp) : List Char :=
  padded 2 t.second ++ (fractionText t.fraction ++ t.zone.chars)

/-- The text of what follows the date. -/
def clockChars (t : Timestamp) : List Char :=
  padded 2 t.hour ++ ':' :: (padded 2 t.minute ++ ':' :: t.secondChars)

/-- **The text of a timestamp.** -/
def text (t : Timestamp) : String :=
  String.ofList (Instant.dateChars t.date ++ t.separator :: t.clockChars)

/-- The second of the day.  The second sixty is a leap second, which goes on from the one before. -/
def secondOfDay (t : Timestamp) : Nat := (t.hour * 60 + t.minute) * 60 + min t.second 59

/-- The nanosecond, which is one of the next thousand million in a leap second. -/
def nanosecond (t : Timestamp) : Nat :=
  if t.second = 60 then nanosecondsOf t.fraction + Instant.nanosecondsInSecond
  else nanosecondsOf t.fraction

/-- **The instant that a timestamp denotes.** -/
def instant (t : Timestamp) : Instant :=
  .ofLocal t.date t.secondOfDay t.nanosecond (t.zone.minutes * 60)

/-- The times of day that there are, with zones of so many hours at most. -/
structure HasClock (hours : Nat) (t : Timestamp) : Prop where
  separator : t.separator = 'T' ∨ t.separator = 't' ∨ t.separator = ' '
  hour : t.hour ≤ 23
  minute : t.minute ≤ 59
  second : t.second ≤ 60
  fraction : ∀ c ∈ t.fraction, c.isDigit = true
  zone : t.zone.IsWritten hours

theorem hasClock_iff {hours : Nat} {t : Timestamp} :
    t.HasClock hours ↔ (t.separator = 'T' ∨ t.separator = 't' ∨ t.separator = ' ') ∧ t.hour ≤ 23 ∧
      t.minute ≤ 59 ∧ t.second ≤ 60 ∧ t.fraction.all Char.isDigit = true ∧
      t.zone.IsWritten hours :=
  ⟨fun h => ⟨h.separator, h.hour, h.minute, h.second, List.all_eq_true.2 h.fraction, h.zone⟩,
    fun ⟨h₁, h₂, h₃, h₄, h₅, h₆⟩ => ⟨h₁, h₂, h₃, h₄, List.all_eq_true.1 h₅, h₆⟩⟩

instance (hours : Nat) (t : Timestamp) : Decidable (t.HasClock hours) :=
  decidable_of_iff _ hasClock_iff.symm

/-- **The timestamps that there are**, with zones of so many hours at most: those of real dates in
the years that four digits write. -/
structure IsWritten (hours : Nat) (t : Timestamp) : Prop extends t.HasClock hours where
  isReal : t.date.isReal = true
  year : 0 ≤ t.date.year ∧ t.date.year ≤ 9999

theorem isWritten_iff {hours : Nat} {t : Timestamp} :
    t.IsWritten hours ↔
      t.HasClock hours ∧ t.date.isReal = true ∧ 0 ≤ t.date.year ∧ t.date.year ≤ 9999 :=
  ⟨fun h => ⟨h.toHasClock, h.isReal, h.year⟩, fun ⟨h₁, h₂, h₃⟩ => ⟨h₁, h₂, h₃⟩⟩

instance (hours : Nat) (t : Timestamp) : Decidable (t.IsWritten hours) :=
  decidable_of_iff _ isWritten_iff.symm

/-- Zones that lie within some hours lie within more. -/
theorem IsWritten.mono {hours hours' : Nat} {t : Timestamp} (h : t.IsWritten hours)
    (hle : hours ≤ hours') : t.IsWritten hours' := by
  refine ⟨⟨h.separator, h.hour, h.minute, h.second, h.fraction, ?_⟩, h.isReal, h.year⟩
  have hzone := h.zone
  cases hz : t.zone with
  | universal letter => rwa [hz] at hzone
  | ahead hour minute | behind hour minute =>
      rw [hz] at hzone
      exact ⟨Nat.le_trans hzone.1 hle, hzone.2⟩

/-! ### Reading a timestamp -/

variable {hours : Nat} {t : Timestamp} {z : Zone}

/-- The text of a date in a year of four digits. -/
theorem dateChars_eq {d : Date} (h : 0 ≤ d.year ∧ d.year ≤ 9999) :
    Instant.dateChars d =
      padded 4 d.year.toNat ++ '-' :: (padded 2 d.month ++ '-' :: padded 2 d.day) := by
  have hyear : Instant.yearChars d.year = padded 4 d.year.toNat := by
    rw [Instant.yearChars, if_neg (by omega), if_pos h.2]
  rw [Instant.dateChars, hyear]

/-- No zone begins with a digit or a point. -/
theorem exists_cons_zoneChars (h : z.IsWritten hours) :
    ∃ c cs, z.chars = c :: cs ∧ c.isDigit = false ∧ c ≠ '.' := by
  cases z with
  | universal letter =>
      obtain rfl | rfl := h
      · exact ⟨_, _, rfl, by decide, by decide⟩
      · exact ⟨_, _, rfl, by decide, by decide⟩
  | ahead hour minute => exact ⟨_, _, rfl, by decide, by decide⟩
  | behind hour minute => exact ⟨_, _, rfl, by decide, by decide⟩

theorem stops_zoneChars (h : z.IsWritten hours) : Stops z.chars := by
  obtain ⟨c, cs, heq, hdigit, -⟩ := exists_cons_zoneChars h
  rw [heq]
  exact stops_cons hdigit

/-- A date is read as it was written. -/
theorem date?_dateChars {d : Date} (hreal : d.isReal = true) (hyear : 0 ≤ d.year ∧ d.year ≤ 9999)
    (rest : List Char) : Instant.date? (Instant.dateChars d ++ rest) = some (d, rest) := by
  obtain ⟨hfirst, hlast, hday, hmost⟩ := Date.isReal_iff.1 hreal
  have hmonth := Date.daysInMonth_le d.year d.month
  have hback : (d.year.toNat : Int) = d.year := Int.toNat_of_nonneg hyear.1
  rw [dateChars_eq hyear]
  simp [Instant.date?, sign?, hback, hreal,
    fixed?_padded (by decide : 0 < 4) (by decide) (Nat.zero_le _) (by omega : d.year.toNat ≤ 9999),
    fixed?_two hfirst hlast,
    fixed?_two hday (Nat.le_trans hmost hmonth)]

/-- A fraction is read as it was written, whatever it comes before. -/
theorem fraction?_fractionText {digits : List Char} (hd : ∀ c ∈ digits, c.isDigit = true)
    (hz : z.IsWritten hours) :
    Instant.fraction? (fractionText digits ++ z.chars) = some (nanosecondsOf digits, z.chars) := by
  have hstops := stops_zoneChars hz
  cases digits with
  | nil =>
      obtain ⟨c, cs, heq, -, hpoint⟩ := exists_cons_zoneChars hz
      have hnone : nanosecondsOf [] = 0 := rfl
      simp [fractionText, Instant.fraction?, heq, hpoint, hnone]
  | cons d ds =>
      have htaken := takeWhile_isDigit_append hd hstops
      have hdropped := dropWhile_isDigit_append hd hstops
      rw [List.cons_append] at htaken hdropped
      simp only [fractionText, Instant.fraction?, List.isEmpty_cons, Bool.false_eq_true, if_false,
        List.cons_append, htaken, hdropped]

theorem sign?_singleton (c : Char) (rest : List Char) : sign? [c] (c :: rest) = some rest := by
  simp [sign?]

theorem zone?_plus (cs : List Char) :
    Instant.zone? ('+' :: cs) = (fixed? 2 0 23 cs).bind fun (hour, cs) =>
      (sign? [':'] cs).bind fun cs => (fixed? 2 0 59 cs).bind fun (minute, cs) =>
        some (((hour * 60 + minute) * 60 : Int), cs) := rfl

theorem zone?_minus (cs : List Char) :
    Instant.zone? ('-' :: cs) = (fixed? 2 0 23 cs).bind fun (hour, cs) =>
      (sign? [':'] cs).bind fun cs => (fixed? 2 0 59 cs).bind fun (minute, cs) =>
        some (-((hour * 60 + minute) * 60 : Int), cs) := rfl

/-- A zone is read as it was written. -/
theorem zone?_chars (hz : z.IsWritten 23) : Instant.zone? z.chars = some (z.minutes * 60, []) := by
  cases z with
  | universal letter =>
      obtain rfl | rfl := hz
      · rfl
      · rfl
  | ahead hour minute =>
      simp only [Zone.chars, zone?_plus, fixed?_two (Nat.zero_le _) hz.1,
        fixed?_two_end (Nat.zero_le _) hz.2, sign?_singleton,
        Option.bind_some, Zone.minutes]
  | behind hour minute =>
      simp only [Zone.chars, zone?_minus, fixed?_two (Nat.zero_le _) hz.1,
        fixed?_two_end (Nat.zero_le _) hz.2, sign?_singleton,
        Option.bind_some, Zone.minutes, Int.neg_mul]

/-- A time of day is read as it was written, up to its zone. -/
theorem time?_clockChars (h : t.HasClock hours) :
    Instant.time? t.clockChars = some (t.secondOfDay, t.nanosecond, t.zone.chars) := by
  obtain ⟨-, hhour, hminute, hsecond, hfraction, hzone⟩ := h
  simp only [Instant.time?, clockChars, secondChars, sign?, secondOfDay, nanosecond,
    fixed?_two (Nat.zero_le _) hhour,
    fixed?_two (Nat.zero_le _) hminute,
    fixed?_two (Nat.zero_le _) hsecond,
    fraction?_fractionText hfraction hzone, bind, Option.bind, List.contains_cons, beq_self_eq_true,
    Bool.true_or, if_true, beq_iff_eq]
  split
  next hleap => simp only [hleap, Nat.min_eq_right (by decide : 59 ≤ 60)]
  next hleap => rw [Nat.min_eq_left (by omega)]

/-- **The text of a timestamp is read as the instant that it denotes.** -/
theorem ofRfc3339?_text (h : t.IsWritten 23) : Instant.ofRfc3339? t.text = some t.instant := by
  have hseparator : sign? ['T', 't', ' '] (t.separator :: t.clockChars) = some t.clockChars := by
    have hallowed : t.separator ∈ ['T', 't', ' '] := by simpa using h.separator
    simp only [sign?, List.contains_iff_mem, hallowed, if_true]
  simp [Instant.ofRfc3339?, text, instant, date?_dateChars h.isReal h.year, hseparator,
    time?_clockChars h.toHasClock, zone?_chars h.zone]

end Timestamp

/-! ### What the store writes -/

namespace Instant

/-- An instant as the store writes it: with a space and the universal zone. -/
def timestamp (x : Instant) : Timestamp where
  date := Date.ofDayNumber x.day
  separator := ' '
  hour := x.second / 3600
  minute := x.second / 60 % 60
  second := x.shownSecond
  fraction := (fractionChars x.shownNanosecond).tail
  zone := .ahead 0 0

variable {x : Instant}

/-- The text of a fraction is that of its digits. -/
theorem fractionText_tail_fractionChars (n : Nat) :
    Timestamp.fractionText (fractionChars n).tail = fractionChars n := by
  unfold fractionChars Timestamp.fractionText
  repeat' split
  all_goals simp_all [padded_ne_nil]

theorem length_tail_fractionChars_le {n : Nat} (h : n < 10 ^ 9) :
    (fractionChars n).tail.length ≤ 9 := by
  have hthree := fun m (hm : m < 10 ^ 3) => length_padded (by decide : 0 < 3) hm
  have hsix := fun m (hm : m < 10 ^ 6) => length_padded (by decide : 0 < 6) hm
  unfold fractionChars
  repeat' split
  · decide
  · simp [hthree (n / 1000000) (by omega)]
  · simp [hsix (n / 1000) (by omega)]
  · simp [length_padded (by decide : 0 < 9) h]

theorem isDigit_of_mem_tail_fractionChars {n : Nat} {c : Char} (h : c ∈ (fractionChars n).tail) :
    c.isDigit = true := by
  unfold fractionChars at h
  repeat' split at h
  · exact nomatch h
  all_goals exact isDigit_of_mem_padded h

/-- **What the store keeps is the text of a timestamp.** -/
theorem text_timestamp (x : Instant) : x.timestamp.text = x.stored := by
  have hzone : Zone.chars (.ahead 0 0) = ['+', '0', '0', ':', '0', '0'] := by decide +kernel
  simp only [Timestamp.text, Timestamp.clockChars, Timestamp.secondChars, timestamp,
    fractionText_tail_fractionChars, hzone, stored, chars, timeChars, shownSecond, shownNanosecond,
    List.append_assoc, List.cons_append]

theorem nanosecondsOf_tail_fractionChars {n : Nat} (h : n < 10 ^ 9) :
    nanosecondsOf (fractionChars n).tail = n := by
  unfold fractionChars
  simp only [beq_iff_eq]
  split
  next hzero =>
    rw [hzero]
    rfl
  split
  · rw [List.tail_cons, nanosecondsOf_padded (by decide) (by decide) (by omega)]
    omega
  split
  · rw [List.tail_cons, nanosecondsOf_padded (by decide) (by decide) (by omega)]
    omega
  · rw [List.tail_cons, nanosecondsOf_padded (by decide) (by decide) h]
    omega

/-- **An instant is the one that its timestamp denotes.** -/
theorem instant_timestamp (h : x.IsValid) : x.timestamp.instant = x := by
  have hsecond : x.timestamp.secondOfDay = x.second := by
    have hnanosecond := h.nanosecond_lt
    unfold Timestamp.secondOfDay timestamp shownSecond nanosecondsInSecond
    simp only
    split <;> omega
  have hnanosecond : x.timestamp.nanosecond = x.nanosecond := by
    have hlt := h.nanosecond_lt
    have hdigits := nanosecondsOf_tail_fractionChars (shown_fits h).2
    unfold Timestamp.nanosecond timestamp
    simp only [hdigits]
    unfold shownSecond shownNanosecond nanosecondsInSecond
    split <;> split <;> omega
  have hzone : x.timestamp.zone.minutes * 60 = 0 := by
    simp [timestamp, Zone.minutes]
  rw [Timestamp.instant, hsecond, hnanosecond, hzone]
  exact ofLocal_ofDayNumber h.second_lt

theorem hasClock_timestamp (h : x.IsValid) (hours : Nat) : x.timestamp.HasClock hours := by
  have hsecond := h.second_lt
  refine ⟨.inr (.inr rfl), ?_, ?_, (shown_fits h).1, fun _ => isDigit_of_mem_tail_fractionChars,
    Nat.zero_le _, Nat.zero_le _⟩
  · exact Nat.le_of_lt_succ (Nat.div_lt_of_lt_mul hsecond)
  · exact Nat.le_of_lt_succ (Nat.mod_lt _ (by decide))

end Instant

end ContactBook.Calendar
