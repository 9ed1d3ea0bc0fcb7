/-
**Days of dates and of timestamps.**

Times are compared by the days that their texts name.  A date names its own day, and a timestamp the
day of its instant in universal time: seconds and their fraction do not move it, and it is counted
out only where the zone or the length of the month could.  But three kinds of timestamps name no
day: those with a small letter between date and time, leap seconds, and those whose fraction has
more digits than a floating-point number can hold.

Main definitions:

* `ContactBook.Calendar.Timestamp.IsLegible` — **the timestamps whose time can be read for its
  day**;
* `ContactBook.Calendar.TimeValue.lastDay` — the last day of the year 9999.

Main results:

* `ContactBook.Calendar.TimeValue.dayAt?_eq` — the day of a date with a time of day is counted
  right, whether it is counted or not;
* `ContactBook.Calendar.TimeValue.dayOf?_date`, `dayOf?_text`, `dayOf?_stored` — the days that
  dates, timestamps and stored instants name;
* `ContactBook.Calendar.TimeValue.sameDay_date_iff`, `sameDay_text_iff` — **when a stored instant
  and what it is compared with name one day**.
-/

import ContactBook.Proofs.Calendar.Fraction
import ContactBook.Proofs.Calendar.Timestamp
import Mathlib.Data.List.TakeWhile

set_option autoImplicit false

namespace ContactBook.Calendar

open ContactBook.Decimal

/-! ### Timestamps that name a day -/

namespace Timestamp

variable {t : Timestamp}

/-- **Whether the time of a timestamp can be read for its day**: no small letter stands before it,
its second is no leap second, and the digits of its fraction fit. -/
structure IsLegible (t : Timestamp) : Prop where
  separator : t.separator ≠ 't'
  second : t.second ≠ 60
  fraction : TimeValue.fractionFits t.fraction = true

theorem isLegible_iff : t.IsLegible ↔
    t.separator ≠ 't' ∧ t.second ≠ 60 ∧ TimeValue.fractionFits t.fraction = true :=
  ⟨fun h => ⟨h.separator, h.second, h.fraction⟩, fun h => ⟨h.1, h.2.1, h.2.2⟩⟩

instance (t : Timestamp) : Decidable t.IsLegible := decidable_of_iff _ isLegible_iff.symm

/-- The time of day of a timestamp without its seconds. -/
def clock (t : Timestamp) : TimeValue.Clock := ⟨t.hour * 60 + t.minute, t.zone.minutes⟩

/-- Whether the date of a timestamp can be read and its day be named. -/
def InRange (t : Timestamp) : Prop :=
  (-9999 ≤ t.date.year ∧ t.date.year ≤ 9999) ∧
    TimeValue.inRange (TimeValue.minuteOf t.date.dayNumber t.clock) = true

instance (t : Timestamp) : Decidable t.InRange :=
  inferInstanceAs (Decidable ((_ ≤ _ ∧ _ ≤ _) ∧ _ = _))

end Timestamp

namespace TimeValue

/-! ### Dates and times of day -/

variable {hours : Nat} {d : Date} {z : Zone} {t : Timestamp}

@[simp] theorem exactly?_cons (c : Char) (rest : List Char) :
    exactly? c (c :: rest) = some rest := by
  simp [exactly?]

/-- A digit is no other sign. -/
theorem exactly?_of_isDigit {c d : Char} (hc : c.isDigit = false) (hd : d.isDigit = true)
    (rest : List Char) : exactly? c (d :: rest) = none := by
  simp [exactly?, (ne_of_isDigit hd hc).symm]

theorem isSpace_of_isDigit {c : Char} (h : c.isDigit = true) : isSpace c = false := by
  have hzero := (Char.isDigit_iff_toNat.1 h).1
  have hcode : '0'.toNat = 48 := rfl
  simp only [isSpace, Bool.or_eq_false_iff, Bool.and_eq_false_iff, beq_eq_false_iff_ne,
    decide_eq_false_iff_not]
  exact ⟨ne_of_isDigit h (by decide), .inr (by omega)⟩

/-- Reads a date behind its sign. -/
def unsignedDate? (negative : Bool) (cs : List Char) : Option (Date × List Char) := do
  let (year, cs) ← fixed? 4 0 9999 cs
  let (month, cs) ← fixed? 2 1 12 (← exactly? '-' cs)
  let (day, cs) ← fixed? 2 1 31 (← exactly? '-' cs)
  some (⟨if negative then -(year : Int) else year, month, day⟩, cs)

theorem date?_minus (cs : List Char) : date? ('-' :: cs) = unsignedDate? true cs := rfl

theorem date?_of_ne {c : Char} (hc : c ≠ '-') (cs : List Char) :
    date? (c :: cs) = unsignedDate? false (c :: cs) := by
  simp only [date?, List.cons.injEq, hc, false_and, imp_self, implies_true]
  rfl

/-- A date is read behind its sign as it was written, if four digits write its year. -/
theorem unsignedDate?_padded (negative : Bool) (n : Nat) {month day : Nat}
    (hmonth : 1 ≤ month ∧ month ≤ 12) (hday : 1 ≤ day ∧ day ≤ 31) (rest : List Char) :
    unsignedDate? negative
        (padded 4 n ++ '-' :: (padded 2 month ++ '-' :: (padded 2 day ++ rest))) =
      if n ≤ 9999 then some (⟨if negative then -(n : Int) else n, month, day⟩, rest) else none := by
  split
  next hn =>
    simp [unsignedDate?, fixed?_padded (by decide : 0 < 4) (by decide) (Nat.zero_le n) hn,
      fixed?_two hmonth.1 hmonth.2,
      fixed?_two hday.1 hday.2]
  next hn =>
    -- a fifth digit stands where the sign is looked for
    have hlong := lt_length_padded (by decide : 0 < 4) (Nat.lt_of_not_le hn : 10 ^ 4 ≤ n)
    obtain ⟨c, cs, hfifth⟩ := List.exists_cons_of_length_pos
      (List.length_drop ▸ Nat.sub_pos_of_lt hlong : 0 < ((padded 4 n).drop 4).length)
    have hc : c.isDigit = true :=
      isDigit_of_mem_padded (List.mem_of_mem_drop (hfifth ▸ List.mem_cons_self))
    have hsign : '-'.isDigit = false := by decide
    cases hread : fixed? 4 0 9999
        (padded 4 n ++ '-' :: (padded 2 month ++ '-' :: (padded 2 day ++ rest))) with
    | none => simp [unsignedDate?, hread]
    | some first =>
        obtain ⟨year, behind⟩ := first
        have hdrop := eq_drop_of_fixed? hread
        rw [List.drop_append_of_le_length (Nat.le_of_lt hlong), hfifth, List.cons_append] at hdrop
        simp [unsignedDate?, hread, hdrop, exactly?_of_isDigit hsign hc]

/-- **A date is read as it was written**, if four digits write its year. -/
theorem date?_dateChars (hreal : d.isReal = true) (rest : List Char) :
    date? (Instant.dateChars d ++ rest) =
      if -9999 ≤ d.year ∧ d.year ≤ 9999 then some (d, rest) else none := by
  obtain ⟨hfirst, hlast, hday, hmost⟩ := Date.isReal_iff.1 hreal
  have hmonth := Date.daysInMonth_le d.year d.month
  have hunsigned := fun negative n => unsignedDate?_padded negative n
    ⟨hfirst, hlast⟩ ⟨hday, Nat.le_trans hmost hmonth⟩ rest
  have hchars : ∀ cs : List Char, cs ++ '-' :: (padded 2 d.month ++ '-' :: padded 2 d.day) ++ rest =
      cs ++ '-' :: (padded 2 d.month ++ '-' :: (padded 2 d.day ++ rest)) := by simp
  rw [Instant.dateChars, hchars, Instant.yearChars]
  split
  · next hneg =>
      have hback : -(d.year.natAbs : Int) = d.year := by omega
      rw [List.cons_append, date?_minus, hunsigned, if_pos rfl, hback]
      exact if_congr (by omega) rfl rfl
  split
  · next hneg hfour =>
      have hback : (d.year.toNat : Int) = d.year := by omega
      obtain ⟨c, digits, hdigits, hc⟩ := exists_cons_padded 4 d.year.toNat
      have hsign : c ≠ '-' := ne_of_isDigit hc (by decide)
      have hread := hunsigned false d.year.toNat
      rw [hdigits, List.cons_append] at hread ⊢
      rw [date?_of_ne hsign, hread, if_neg Bool.false_ne_true, hback]
      exact if_congr (by omega) rfl rfl
  · next hneg hfive =>
      rw [if_neg fun h => hfive h.2, List.cons_append, date?_of_ne (by decide), unsignedDate?,
        fixed?_cons_eq_none (by decide) (by decide)]
      rfl

theorem zone?_plus (cs : List Char) :
    zone? ('+' :: cs) = (fixed? 2 0 14 cs).bind fun (hour, cs) =>
      (exactly? ':' cs).bind fun cs => (fixed? 2 0 59 cs).bind fun (minute, cs) =>
        if (skipSpace cs).isEmpty then some (hour * 60 + minute : Int) else none := rfl

theorem zone?_minus (cs : List Char) :
    zone? ('-' :: cs) = (fixed? 2 0 14 cs).bind fun (hour, cs) =>
      (exactly? ':' cs).bind fun cs => (fixed? 2 0 59 cs).bind fun (minute, cs) =>
        if (skipSpace cs).isEmpty then some (-(hour * 60 + minute : Int)) else none := rfl

/-- A zone is read as it was written. -/
theorem zone?_chars (hz : z.IsWritten 14) : zone? z.chars = some z.minutes := by
  cases z with
  | universal letter =>
      obtain rfl | rfl := hz
      · rfl
      · rfl
  | ahead hour minute =>
      simp only [Zone.chars, zone?_plus, fixed?_two (Nat.zero_le _) hz.1,
        fixed?_two_end (Nat.zero_le _) hz.2, exactly?_cons,
        Option.bind_some, Zone.minutes]
      rfl
  | behind hour minute =>
      simp only [Zone.chars, zone?_minus, fixed?_two (Nat.zero_le _) hz.1,
        fixed?_two_end (Nat.zero_le _) hz.2, exactly?_cons,
        Option.bind_some, Zone.minutes]
      rfl

/-- The rest of a text after its seconds, if these can be read. -/
theorem afterSeconds?_secondChars (h : t.HasClock hours) :
    afterSeconds? (':' :: t.secondChars) =
      if t.second ≠ 60 ∧ fractionFits t.fraction = true then some t.zone.chars else none := by
  have hsecond := h.second
  have hread : fixed? 2 0 59 t.secondChars =
      if t.second ≠ 60 then some (t.second, Timestamp.fractionText t.fraction ++ t.zone.chars)
      else none := by
    rw [Timestamp.secondChars, fixed?_padded_append (by decide) (by omega)]
    exact if_congr (by omega) rfl rfl
  have hstops := Timestamp.stops_zoneChars h.zone
  by_cases hleap : t.second = 60
  · simp [afterSeconds?, hread, hleap]
  cases hfraction : t.fraction with
  | nil =>
      obtain ⟨c, cs, hzone, -, hpoint⟩ := Timestamp.exists_cons_zoneChars h.zone
      have hfits : fractionFits [] = true := rfl
      simp [afterSeconds?, hread, hleap, hfraction, Timestamp.fractionText, hfits, hzone, hpoint]
  | cons d ds =>
      have hd : ∀ c ∈ d :: ds, c.isDigit = true := hfraction ▸ h.fraction
      have hds : ∀ c ∈ ds, c.isDigit = true := fun c hc => hd c (List.mem_cons_of_mem _ hc)
      simp [afterSeconds?, hread, hleap, hfraction, Timestamp.fractionText, hd d List.mem_cons_self,
        takeWhile_isDigit_append hds hstops, dropWhile_isDigit_append hds hstops]

/-- A time of day is read as it was written, if its seconds can be. -/
theorem clock?_clockChars (h : t.HasClock 14) :
    clock? t.clockChars =
      if t.second ≠ 60 ∧ fractionFits t.fraction = true then
        some t.clock
      else none := by
  have hhour : t.hour ≤ 24 := Nat.le_succ_of_le h.hour
  have hread : clock? t.clockChars = (afterSeconds? (':' :: t.secondChars)).bind fun cs =>
      (zone? cs).bind fun zone => some ⟨t.hour * 60 + t.minute, zone⟩ := by
    simp [clock?, Timestamp.clockChars,
      fixed?_two (Nat.zero_le _) hhour,
      fixed?_two (Nat.zero_le _) h.minute]
  rw [hread, afterSeconds?_secondChars h]
  by_cases hreads : t.second ≠ 60 ∧ fractionFits t.fraction = true
  · rw [if_pos hreads, if_pos hreads, Option.bind_some, zone?_chars h.zone, Option.bind_some,
      Timestamp.clock]
  · rw [if_neg hreads, if_neg hreads, Option.bind_none]

/-! ### Days -/

/-- The last day that texts name. -/
def lastDay : Int := (Date.mk 9999 12 31).dayNumber

theorem lastDay_eq : lastDay = 5373484 := by decide +kernel

theorem inRange_iff {minute : Int} :
    inRange minute = true ↔ 720 ≤ minute ∧ minute / minutesInDay ≤ lastDay := by
  have hrange : inRange minute = true ↔ 720 ≤ minute ∧ minute < 5373485 * minutesInDay := by
    simp [inRange]
  rw [hrange, minutesInDay, lastDay_eq]
  omega

/-- **The day of a real date with a time of day**, as far as days can be named. -/
theorem dayAt?_eq (hreal : d.isReal = true) (clock : Clock) (hminute : clock.minute < 1440)
    (hzone : -1440 < clock.zone ∧ clock.zone < 1440) :
    dayAt? d clock =
      if inRange (minuteOf d.dayNumber clock) = true then
        some (minuteOf d.dayNumber clock / minutesInDay)
      else none := by
  by_cases hin : inRange (minuteOf d.dayNumber clock) = true
  · have hpast : ¬ d.year < leastYear := by
      intro hyear
      have hend : (Date.mk (leastYear - 1) 12 31).dayNumber = -328 := by decide +kernel
      have hle := Date.dayNumber_le_yearEnd hreal (Int.le_sub_one_of_lt hyear)
      have hfirst := (inRange_iff.1 hin).1
      rw [hend] at hle
      rw [minuteOf, minutesInDay] at hfirst
      omega
    have hstands : clock.zone = 0 →
        minuteOf d.dayNumber clock / minutesInDay = d.dayNumber := by
      intro h
      rw [minuteOf, minutesInDay, h]
      omega
    simp only [dayAt?, hpast, hin, decide_false, Bool.not_true, Bool.or_self,
      Bool.false_eq_true, if_false, if_true]
    split
    next hday => rw [hstands (by simpa using (Bool.and_eq_true_iff.1 hday).1)]
    next => rfl
  · have hout : inRange (minuteOf d.dayNumber clock) = false := by simpa using hin
    simp only [dayAt?, hout, Bool.not_false, Bool.or_true, if_true, Bool.false_eq_true, if_false]

end TimeValue

namespace Timestamp

variable {t : Timestamp}

theorem clock_fits (h : t.HasClock 14) :
    t.clock.minute < 1440 ∧ -1440 < t.clock.zone ∧ t.clock.zone < 1440 := by
  obtain ⟨-, hhour, hminute, -, -, hzone⟩ := h
  refine ⟨by simp only [clock]; omega, ?_⟩
  simp only [clock]
  cases hz : t.zone <;> simp only [hz, Zone.IsWritten, Zone.minutes] at hzone ⊢ <;> omega

/-- Seconds do not move the day. -/
theorem day_instant (h : t.second ≤ 60) :
    t.instant.day =
      TimeValue.minuteOf t.date.dayNumber t.clock / TimeValue.minutesInDay := by
  simp only [instant, secondOfDay, Instant.ofLocal, Instant.secondsInDay, clock,
    TimeValue.minuteOf, TimeValue.minutesInDay]
  omega

end Timestamp

namespace TimeValue

variable {d : Date} {t : Timestamp}

/-- The days on which the years begin and end that four digits write. -/
theorem dayNumber_bounds (hreal : d.isReal = true) (hyear : 0 ≤ d.year ∧ d.year ≤ 9999) :
    1721060 ≤ d.dayNumber ∧ d.dayNumber ≤ lastDay := by
  have hfirst : (Date.mk 0 1 1).dayNumber = 1721060 := by decide +kernel
  rw [← hfirst]
  exact ⟨Date.dayNumber_newYear_le hreal hyear.1, Date.dayNumber_le_yearEnd hreal hyear.2⟩

/-- **A date names its day.** -/
theorem dated?_dateChars (hreal : d.isReal = true) (hyear : 0 ≤ d.year ∧ d.year ≤ 9999) :
    dated? (Instant.dateChars d) = some d.dayNumber := by
  obtain ⟨hfirst, hlast⟩ := dayNumber_bounds hreal hyear
  have hdate : date? (Instant.dateChars d) = some (d, []) := by
    have hread := date?_dateChars hreal []
    rwa [if_pos (by omega), List.append_nil] at hread
  have hday : minuteOf d.dayNumber ⟨0, 0⟩ / minutesInDay = d.dayNumber := by
    simp only [minuteOf, minutesInDay]
    omega
  have hin : inRange (minuteOf d.dayNumber ⟨0, 0⟩) = true := by
    refine inRange_iff.2 ⟨?_, by omega⟩
    simp only [minuteOf, minutesInDay]
    omega
  have hat := dayAt?_eq hreal ⟨0, 0⟩ (by decide) (by decide)
  rw [if_pos hin, hday] at hat
  simp only [dated?, hdate, hat, bind, Option.bind, List.dropWhile_nil, List.isEmpty_nil, if_true]

/-- What stands between date and time is passed over, unless it is a small letter. -/
theorem dropWhile_between (h : t.HasClock 14) :
    (t.separator :: t.clockChars).dropWhile (fun c => isSpace c || c == 'T') =
      if t.separator = 't' then 't' :: t.clockChars else t.clockChars := by
  obtain ⟨c, digits, hdigits, hc⟩ := exists_cons_padded 2 t.hour
  have hletter : c ≠ 'T' := ne_of_isDigit hc (by decide)
  have hclock : t.clockChars.dropWhile (fun c => isSpace c || c == 'T') = t.clockChars := by
    rw [Timestamp.clockChars, hdigits, List.cons_append]
    simp [isSpace_of_isDigit hc, hletter]
  rcases h.separator with hbig | hsmall | hblank
  · simpa [hbig] using hclock
  · simp [hsmall, isSpace]
  · simpa [hblank, isSpace] using hclock

/-- **A timestamp names the day of its instant**, as far as it names a day. -/
theorem dated?_text (h : t.HasClock 14) (hreal : t.date.isReal = true) :
    dated? t.text.toList =
      if t.IsLegible ∧ t.InRange then some t.instant.day else none := by
  have hat : dayAt? t.date t.clock =
      if inRange (minuteOf t.date.dayNumber t.clock) = true then some t.instant.day else none := by
    obtain ⟨hminute, hzone⟩ := Timestamp.clock_fits h
    rw [dayAt?_eq hreal t.clock hminute hzone, Timestamp.day_instant h.second]
  have hclock : t.clockChars ≠ [] := by
    rw [Timestamp.clockChars]
    exact List.append_ne_nil_of_left_ne_nil (padded_ne_nil _ _) _
  rw [Timestamp.text, String.toList_ofList]
  simp only [dated?, date?_dateChars hreal, bind, Option.bind]
  by_cases hyear : -9999 ≤ t.date.year ∧ t.date.year ≤ 9999
  · simp only [if_pos hyear, dropWhile_between h]
    by_cases hsmall : t.separator = 't'
    · have hnone : clock? ('t' :: t.clockChars) = none := by
        simp [clock?, fixed?_cons_eq_none Nat.two_pos]
      have hnot : ¬ t.IsLegible := fun hlegible => hlegible.separator hsmall
      simp [hsmall, hnone, hnot]
    · have hlegible : t.IsLegible ↔ t.second ≠ 60 ∧ fractionFits t.fraction = true := by
        simp only [Timestamp.isLegible_iff, ne_eq, hsmall, not_false_eq_true, true_and]
      simp only [hsmall, if_false, List.isEmpty_iff, hclock, clock?_clockChars h, hlegible,
        Timestamp.InRange, hyear, true_and]
      by_cases hreads : t.second ≠ 60 ∧ fractionFits t.fraction = true
      · rw [if_pos hreads]
        simpa only [hreads, ne_eq, not_false_eq_true, and_self, true_and] using hat
      · rw [if_neg hreads, if_neg fun hday => hreads hday.1]
  · simp only [Timestamp.InRange, hyear, false_and, and_false, if_false]

/-! ### Texts -/

/-- A text that begins with a date is no time of day. -/
theorem undated?_dateChars (d : Date) (rest : List Char) :
    undated? (Instant.dateChars d ++ rest) = none := by
  have hsign : ∀ {c : Char} (cs : List Char), c.isDigit = false → clock? (c :: cs) = none := by
    intro c cs hc
    rw [clock?, fixed?_cons_eq_none Nat.two_pos hc]
    rfl
  -- where the hour ends a year of four digits goes on
  have hyear : ∀ n : Nat, n ≤ 9999 → ∀ cs : List Char, clock? (padded 4 n ++ cs) = none := by
    intro n hn cs
    have hparts : padded (2 + 2) n = padded 2 (n / 100) ++ padded 2 (n % 100) :=
      padded_add Nat.two_pos Nat.two_pos (Nat.lt_succ_of_le hn)
    obtain ⟨c, digits, hdigits, hc⟩ := exists_cons_padded 2 (n % 100)
    have hcolon : exactly? ':' (padded 2 (n % 100) ++ cs) = none := by
      rw [hdigits, List.cons_append]
      exact exactly?_of_isDigit (by decide) hc _
    rw [hparts, List.append_assoc, clock?, fixed?_padded_append Nat.two_pos (by omega)]
    split
    all_goals simp [hcolon]
  have hclock : clock? (Instant.dateChars d ++ rest) = none := by
    unfold Instant.dateChars Instant.yearChars
    split
    · exact hsign _ (by decide)
    split
    · rw [List.append_assoc]
      exact hyear _ (by omega) _
    · exact hsign _ (by decide)
  rw [undated?, hclock]
  rfl

/-- Nor is it a number. -/
theorem numbered?_dateChars (d : Date) (rest : List Char) :
    numbered? (Instant.dateChars d ++ rest) = none := by
  have hexponent : ∀ cs : List Char, exponent? ('-' :: cs) = none := by
    intro cs
    simp [exponent?, skipSpace, isSpace]
  have hyear : ∀ (n : Nat) (cs : List Char), decimal? (padded 4 n ++ '-' :: cs) = none ∧
      decimal? ('-' :: (padded 4 n ++ '-' :: cs)) = none ∧
        decimal? ('+' :: (padded 4 n ++ '-' :: cs)) = none := by
    intro n cs
    have hd : ∀ c ∈ padded 4 n, c.isDigit = true := fun _ => isDigit_of_mem_padded
    have hstops : Stops ('-' :: cs) := stops_cons (by decide)
    have hwhole := takeWhile_isDigit_append hd hstops
    have hbehind := dropWhile_isDigit_append hd hstops
    obtain ⟨c, digits, hdigits, hc⟩ := exists_cons_padded 4 n
    have hminus : c ≠ '-' := ne_of_isDigit hc (by decide)
    have hplus : c ≠ '+' := ne_of_isDigit hc (by decide)
    have hskip := isSpace_of_isDigit hc
    rw [hdigits, List.cons_append] at hwhole hbehind ⊢
    refine ⟨?_, ?_, ?_⟩
    · simp [decimal?, skipSpace, hskip, hminus, hplus, hwhole, hbehind, hexponent]
    · simp [decimal?, skipSpace, isSpace, hwhole, hbehind, hexponent]
    · simp [decimal?, skipSpace, isSpace, hwhole, hbehind, hexponent]
  have hdecimal : decimal? (Instant.dateChars d ++ rest) = none := by
    unfold Instant.dateChars Instant.yearChars
    split
    · rw [List.append_assoc]
      exact (hyear _ _).2.1
    split
    · rw [List.append_assoc]
      exact (hyear _ _).1
    · rw [List.append_assoc]
      exact (hyear _ _).2.2
  rw [numbered?, hdecimal]
  rfl

/-- A digit has no case. -/
theorem toLower_of_isDigit {c : Char} (hc : c.isDigit = true) : c.toLower = c := by
  simp only [Char.isDigit, Bool.and_eq_true, decide_eq_true_eq] at hc
  unfold Char.toLower
  rw [dif_neg]
  rintro ⟨hcapital, -⟩
  have hfirst := UInt32.le_iff_toNat_le.1 hcapital
  have hlast := UInt32.le_iff_toNat_le.1 hc.2
  exact absurd (Nat.le_trans hfirst hlast) (by decide)

/-- Nor is it a word for the present day. -/
theorem isPresent_dateChars (d : Date) (rest : List Char) :
    isPresent (Instant.dateChars d ++ rest) = false := by
  have hfirst : ∀ (c : Char) (cs : List Char), c.toLower ≠ 'n' → c.toLower ≠ 's' →
      isPresent (c :: cs) = false := by
    intro c cs hn hs
    simp [isPresent, presentWords, hn, hs]
  have hyear : ∀ (n : Nat) (cs : List Char), isPresent (padded 4 n ++ cs) = false := by
    intro n cs
    obtain ⟨c, digits, hdigits, hc⟩ := exists_cons_padded 4 n
    have hsame := toLower_of_isDigit hc
    rw [hdigits, List.cons_append]
    refine hfirst c _ ?_ ?_ <;> rw [hsame] <;> exact ne_of_isDigit hc (by decide)
  unfold Instant.dateChars Instant.yearChars
  split
  · exact hfirst _ _ (by decide) (by decide)
  split
  · rw [List.append_assoc]
    exact hyear _ _
  · exact hfirst _ _ (by decide) (by decide)

/-- The characters of a text that begins with a date are all that it has, if none is NUL. -/
theorem charactersOf_dateChars (d : Date) {rest : List Char} (hrest : '\x00' ∉ rest) :
    charactersOf (String.ofList (Instant.dateChars d ++ rest)) = Instant.dateChars d ++ rest := by
  have hpadded := Instant.not_mem_padded (by decide : '\x00'.isDigit = false)
  have hchars : '\x00' ∉ Instant.dateChars d ++ rest := by
    unfold Instant.dateChars Instant.yearChars
    repeat' split
    all_goals simp [hpadded, hrest]
  rw [charactersOf, String.toList_ofList]
  exact List.takeWhile_eq_self_iff.2 fun c hc => bne_iff_ne.2 fun h => hchars (h ▸ hc)

/-- A text that begins with a date has the day that is read from the date on. -/
theorem dayOf?_dateChars (today : Int) (d : Date) {rest : List Char} (hrest : '\x00' ∉ rest) :
    dayOf? today (String.ofList (Instant.dateChars d ++ rest)) =
      dated? (Instant.dateChars d ++ rest) := by
  rw [dayOf?, charactersOf_dateChars d hrest, day?, undated?_dateChars, isPresent_dateChars,
    numbered?_dateChars, if_neg Bool.false_ne_true, Option.or_none, Option.or_none]

/-- **The text of a real date names its day.** -/
theorem dayOf?_date (today : Int) (hreal : d.isReal = true) (hyear : 0 ≤ d.year ∧ d.year ≤ 9999) :
    dayOf? today d.text = some d.dayNumber := by
  have hday := dayOf?_dateChars today d List.not_mem_nil
  rw [List.append_nil] at hday
  rw [Date.text, hday, dated?_dateChars hreal hyear]

/-- **The text of a timestamp names the day of its instant**, as far as it names a day. -/
theorem dayOf?_text (today : Int) (h : t.HasClock 14) (hreal : t.date.isReal = true) :
    dayOf? today t.text = if t.IsLegible ∧ t.InRange then some t.instant.day else none := by
  have hpadded := Instant.not_mem_padded (by decide : '\x00'.isDigit = false)
  have hseparator : '\x00' ≠ t.separator := by
    rintro heq
    have hallowed := h.separator
    rw [← heq] at hallowed
    exact absurd hallowed (by decide)
  have hfraction : '\x00' ∉ Timestamp.fractionText t.fraction := by
    have hdigits : '\x00' ∉ t.fraction := fun hmem => absurd (h.fraction _ hmem) (by decide)
    unfold Timestamp.fractionText
    split <;> simp [hdigits]
  have hzone : '\x00' ∉ t.zone.chars := by
    have hz := h.zone
    cases hzone : t.zone with
    | universal letter =>
        rw [hzone] at hz
        obtain rfl | rfl := hz <;> decide
    | ahead hour minute => simp [Zone.chars, hpadded]
    | behind hour minute => simp [Zone.chars, hpadded]
  have hrest : '\x00' ∉ t.separator :: t.clockChars := by
    simp [Timestamp.clockChars, Timestamp.secondChars, hseparator, hpadded, hfraction, hzone]
  have hdated := dated?_text h hreal
  rw [Timestamp.text, String.toList_ofList] at hdated
  rw [Timestamp.text, dayOf?_dateChars today t.date hrest, hdated]

/-! ### Stored instants -/

variable {x : Instant}

theorem isLegible_timestamp (hvalid : x.IsValid)
    (hleap : x.nanosecond < Instant.nanosecondsInSecond) : x.timestamp.IsLegible := by
  have hsecond : x.timestamp.second ≠ 60 := by
    simp only [Instant.timestamp, Instant.shownSecond, Nat.not_le.2 hleap, if_false]
    omega
  refine ⟨(by decide : ' ' ≠ 't'), hsecond, fractionFits_of_length_le
    (fun _ => Instant.isDigit_of_mem_tail_fractionChars) ?_⟩
  have hnine := Instant.length_tail_fractionChars_le (Instant.shown_fits hvalid).2
  have hdrop := (List.dropWhile_suffix (l := x.timestamp.fraction) (· == '0')).length_le
  exact Nat.le_trans hdrop (Nat.le_trans hnine (by decide))

/-- **No stored instant is a word for the present day.** -/
theorem namesPresent_stored (x : Instant) : namesPresent x.stored = false := by
  have hpadded := Instant.not_mem_padded (by decide : '\x00'.isDigit = false)
  have hfraction : ∀ n : Nat, '\x00' ∉ Instant.fractionChars n := by
    intro n
    unfold Instant.fractionChars
    repeat' split
    all_goals simp [hpadded]
  have hrest : '\x00' ∉ ' ' :: (x.timeChars ++ ['+', '0', '0', ':', '0', '0']) := by
    simp [Instant.timeChars, hpadded, hfraction]
  rw [namesPresent, Instant.stored, Instant.chars, charactersOf_dateChars _ hrest,
    isPresent_dateChars]

/-- The text of a stored instant names the day of the instant, as far as it names a day. -/
theorem dayOf?_stored_eq (today : Int) (h : x.IsValid) :
    dayOf? today x.stored =
      if x.timestamp.IsLegible ∧ x.timestamp.InRange then some x.day else none := by
  have htext := dayOf?_text today (Instant.hasClock_timestamp h 14) (Date.isReal_ofDayNumber x.day)
  rwa [Instant.text_timestamp, Instant.instant_timestamp h] at htext

theorem eq_of_dayOf?_stored {today : Int} (h : x.IsValid) {day : Int}
    (hday : dayOf? today x.stored = some day) :
    day = x.day := by
  rw [dayOf?_stored_eq today h] at hday
  split at hday
  · exact (Option.some.inj hday).symm
  · exact nomatch hday

/-- **A stored instant names its day**, leap seconds aside, up to the end of the year 9999. -/
theorem dayOf?_stored (today : Int) (hvalid : x.IsValid)
    (hleap : x.nanosecond < Instant.nanosecondsInSecond)
    (hfirst : 0 < x.day) (hlast : x.day ≤ lastDay) : dayOf? today x.stored = some x.day := by
  have hreal := Date.isReal_ofDayNumber x.day
  have hin : x.timestamp.InRange := by
    refine ⟨⟨?_, ?_⟩, inRange_iff.2 ⟨?_, ?_⟩⟩
    · refine Decidable.byContradiction fun hyear => ?_
      have hend : (Date.mk (-10000) 12 31).dayNumber < 0 := by decide +kernel
      have hle := Date.dayNumber_le_yearEnd hreal (Int.le_sub_one_of_lt (Int.not_le.1 hyear))
      rw [Date.dayNumber_ofDayNumber] at hle
      exact absurd (Int.lt_of_le_of_lt hle hend) (Int.not_lt.2 (Int.le_of_lt hfirst))
    · refine Decidable.byContradiction fun hyear => ?_
      have hend : lastDay < (Date.mk 10000 1 1).dayNumber := by decide +kernel
      have hle := Date.dayNumber_newYear_le hreal (Int.add_one_le_of_lt (Int.not_le.1 hyear))
      rw [Date.dayNumber_ofDayNumber] at hle
      exact absurd (Int.lt_of_lt_of_le hend hle) (Int.not_lt.2 hlast)
    · have hminutes : minuteOf (Date.ofDayNumber x.day).dayNumber x.timestamp.clock =
          x.day * 1440 + (x.second / 3600 * 60 + x.second / 60 % 60 : Nat) := by
        simp [minuteOf, minutesInDay, Timestamp.clock, Instant.timestamp, Zone.minutes]
      change 720 ≤ minuteOf (Date.ofDayNumber x.day).dayNumber x.timestamp.clock
      omega
    · rw [← Timestamp.day_instant (Instant.hasClock_timestamp hvalid 14).second,
        Instant.instant_timestamp hvalid]
      exact hlast
  rw [dayOf?_stored_eq today hvalid, if_pos ⟨isLegible_timestamp hvalid hleap, hin⟩]

/-- **A stored instant and a date name one day when the date is that of the instant.** -/
theorem sameDay_date_iff (today : Int) (hvalid : x.IsValid)
    (hleap : x.nanosecond < Instant.nanosecondsInSecond)
    (hreal : d.isReal = true) (hyear : 0 ≤ d.year ∧ d.year ≤ 9999) :
    (∃ day, dayOf? today x.stored = some day ∧ dayOf? today d.text = some day) ↔
      Date.ofDayNumber x.day = d := by
  rw [dayOf?_date today hreal hyear]
  constructor
  · rintro ⟨day, hstored, hdate⟩
    obtain rfl := eq_of_dayOf?_stored hvalid hstored
    rw [← Option.some.inj hdate, Date.ofDayNumber_dayNumber hreal]
  · rintro rfl
    obtain ⟨hfirst, hlast⟩ := dayNumber_bounds hreal hyear
    rw [Date.dayNumber_ofDayNumber] at hfirst hlast ⊢
    exact ⟨x.day, dayOf?_stored today hvalid hleap (by omega) hlast, rfl⟩

/-- **A stored instant and a timestamp name one day when their instants have one**, if the timestamp
is legible and the day not too late to be named. -/
theorem sameDay_text_iff (today : Int) (hvalid : x.IsValid)
    (hleap : x.nanosecond < Instant.nanosecondsInSecond)
    (ht : t.IsWritten 14) :
    (∃ day, dayOf? today x.stored = some day ∧ dayOf? today t.text = some day) ↔
      t.IsLegible ∧ t.instant.day = x.day ∧ x.day ≤ lastDay := by
  have hday := Timestamp.day_instant ht.second
  obtain ⟨hminute, hzone⟩ := Timestamp.clock_fits ht.toHasClock
  have hfirst := (dayNumber_bounds ht.isReal ht.year).1
  have hfour : -9999 ≤ t.date.year ∧ t.date.year ≤ 9999 := by
    have hyear := ht.year
    omega
  have hnoon : 720 ≤ minuteOf t.date.dayNumber t.clock := by
    rw [minuteOf, minutesInDay]
    omega
  have hin : t.InRange ↔ t.instant.day ≤ lastDay := by
    rw [Timestamp.InRange, inRange_iff, hday]
    exact ⟨fun h => h.2.2, fun h => ⟨hfour, hnoon, h⟩⟩
  have htext := dayOf?_text today ht.toHasClock ht.isReal
  simp only [hin] at htext
  constructor
  · rintro ⟨day, hstored, hnamed⟩
    obtain rfl := eq_of_dayOf?_stored hvalid hstored
    rw [htext] at hnamed
    split at hnamed
    next hnames =>
      have heq := Option.some.inj hnamed
      exact ⟨hnames.1, heq, heq ▸ hnames.2⟩
    next => exact nomatch hnamed
  · rintro ⟨hlegible, heq, hlast⟩
    have hpos : 0 < x.day := by
      rw [← heq, hday, minutesInDay]
      rw [minuteOf, minutesInDay] at hnoon ⊢
      omega
    refine ⟨x.day, dayOf?_stored today hvalid hleap hpos hlast, ?_⟩
    rw [htext, if_pos ⟨hlegible, heq ▸ hlast⟩, heq]

end TimeValue

end ContactBook.Calendar
