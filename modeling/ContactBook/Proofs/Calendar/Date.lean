/-
**The count of days.**

Every day in the count is the day of one date that the calendar has, and the count goes up with the
calendar.  The years are taken to begin in March, as the count has them: then the odd day of a leap
year is its last one, and a date is a place in its year.

Main definitions:

* `ContactBook.Calendar.Date.Before` — the order of dates: by year, month and day;
* `ContactBook.Calendar.Date.yearStart` — the day before the first of March of a year.

Main results:

* `ContactBook.Calendar.Date.dayNumber_eq` — the day of a date by its year and its place in it;
* `ContactBook.Calendar.Date.isReal_ofDayNumber`, `dayNumber_ofDayNumber` — **each day in the count
  is the day of a real date**;
* `ContactBook.Calendar.Date.ofDayNumber_dayNumber` — and of no other;
* `ContactBook.Calendar.Date.dayNumber_lt_of_before`, `before_ofDayNumber_iff` — **the count goes up
  with the calendar**.
-/

import ContactBook.Calendar.Date

set_option autoImplicit false

namespace ContactBook.Calendar.Date

/-! ### The year from March on -/

/-- The order of dates. -/
def Before (d d' : Date) : Prop :=
  d.year < d'.year ∨ d.year = d'.year ∧ (d.month < d'.month ∨ d.month = d'.month ∧ d.day < d'.day)

/-- The year of a date, if years begin in March. -/
def marchYear (d : Date) : Int := if d.month ≤ 2 then d.year - 1 else d.year

/-- The month of a date, counted from March on. -/
def marchMonth (d : Date) : Nat := (d.month + 9) % 12

/-- The day before the first of March of a year. -/
def yearStart (year : Int) : Int := eraStart - 1 + 365 * year + year / 4 - year / 100 + year / 400

/-- How many days the year has that begins with March of the given one. -/
def yearLength (year : Int) : Int := if isLeapYear (year + 1) then 366 else 365

theorem isLeapYear_iff {year : Int} :
    isLeapYear year = true ↔ year % 4 = 0 ∧ (year % 100 ≠ 0 ∨ year % 400 = 0) := by
  simp [isLeapYear]

theorem yearStart_succ (year : Int) : yearStart (year + 1) = yearStart year + yearLength year := by
  unfold yearStart yearLength
  split
  next hleap =>
    obtain ⟨h4, h100⟩ := isLeapYear_iff.1 hleap
    omega
  next hcommon =>
    have hcommon := mt isLeapYear_iff.2 hcommon
    omega

theorem yearStart_lt {year year' : Int} (h : year < year') :
    yearStart year + yearLength year ≤ yearStart year' := by
  have hlength : ∀ y, 0 ≤ yearLength y := by
    intro y
    unfold yearLength
    split <;> omega
  -- the years go by one after the other
  obtain ⟨n, rfl⟩ : ∃ n : Nat, year' = year + 1 + n := ⟨(year' - year - 1).toNat, by omega⟩
  induction n with
  | zero => rw [← yearStart_succ]; simp
  | succ n ih =>
      have hnext := yearStart_succ (year + 1 + n)
      have := hlength (year + 1 + n)
      have := ih (by omega)
      rw [Int.natCast_succ, ← Int.add_assoc]
      omega

/-- **The day of a date** by its year and its place in the year. -/
theorem dayNumber_eq (d : Date) :
    d.dayNumber = yearStart d.marchYear + daysBefore d.marchMonth + d.day := by
  unfold dayNumber yearStart marchYear marchMonth daysInEra
  simp only
  omega

/-! ### Places in a year -/

theorem isReal_iff {d : Date} :
    d.isReal = true ↔
      1 ≤ d.month ∧ d.month ≤ 12 ∧ 1 ≤ d.day ∧ d.day ≤ daysInMonth d.year d.month := by
  simp [isReal, and_assoc]

theorem daysInMonth_le (year : Int) (month : Nat) : daysInMonth year month ≤ 31 := by
  unfold daysInMonth
  repeat' split
  all_goals decide

/-- The months fill the year: each ends where the next begins, and February with the year. -/
theorem daysBefore_add_daysInMonth {d : Date} (h : 1 ≤ d.month ∧ d.month ≤ 12) :
    (daysBefore d.marchMonth + daysInMonth d.year d.month : Int) =
      if d.month = 2 then yearLength d.marchYear else daysBefore (d.marchMonth + 1) := by
  obtain ⟨year, month, day⟩ := d
  have hmonth : month = 1 ∨ month = 2 ∨ month = 3 ∨ month = 4 ∨ month = 5 ∨ month = 6 ∨
      month = 7 ∨ month = 8 ∨ month = 9 ∨ month = 10 ∨ month = 11 ∨ month = 12 := by
    simp only at h
    omega
  rcases hmonth with rfl | rfl | rfl | rfl | rfl | rfl | rfl | rfl | rfl | rfl | rfl | rfl
  case inr.inl =>
    cases hleap : isLeapYear year <;>
      simp [marchMonth, marchYear, daysBefore, daysInMonth, yearLength, hleap]
  all_goals simp [marchMonth, daysBefore, daysInMonth]

theorem daysBefore_le {month month' : Nat} (h : month ≤ month') :
    daysBefore month ≤ daysBefore month' := by
  unfold daysBefore
  omega

/-- A real date lies in its year. -/
theorem place_le_yearLength {d : Date} (h : d.isReal = true) :
    (daysBefore d.marchMonth + d.day : Int) ≤ yearLength d.marchYear := by
  obtain ⟨hfirst, hlast, -, hday⟩ := isReal_iff.1 h
  have hfill := daysBefore_add_daysInMonth ⟨hfirst, hlast⟩
  split at hfill
  · omega
  next hmonth =>
    -- every month but February ends before it
    have hbefore : daysBefore (d.marchMonth + 1) ≤ daysBefore 11 := by
      refine daysBefore_le ?_
      unfold marchMonth
      omega
    have hlength : (daysBefore 11 : Int) ≤ yearLength d.marchYear := by
      unfold yearLength
      split <;> decide
    omega

/-- A real date comes before the months behind its own. -/
theorem place_le_daysBefore {d : Date} (h : d.isReal = true) {month : Nat}
    (hmonth : d.marchMonth < month) (hyear : month < 12) :
    daysBefore d.marchMonth + d.day ≤ daysBefore month := by
  obtain ⟨hfirst, hlast, -, hday⟩ := isReal_iff.1 h
  have hfill := daysBefore_add_daysInMonth ⟨hfirst, hlast⟩
  have hnext : daysBefore (d.marchMonth + 1) ≤ daysBefore month := daysBefore_le hmonth
  rw [if_neg] at hfill
  · omega
  · intro hfebruary
    rw [marchMonth, hfebruary] at hmonth
    omega

/-! ### The order of the count -/

/-- **The count goes up with the calendar.** -/
theorem dayNumber_lt_of_before {d d' : Date} (h : d.isReal = true) (h' : d'.isReal = true)
    (hbefore : d.Before d') : d.dayNumber < d'.dayNumber := by
  obtain ⟨hfirst, hlast, hday, -⟩ := isReal_iff.1 h
  obtain ⟨hfirst', hlast', hday', -⟩ := isReal_iff.1 h'
  -- the order is the same if years begin in March
  have hmarch : d.marchYear < d'.marchYear ∨ d.marchYear = d'.marchYear ∧
      (d.marchMonth < d'.marchMonth ∨ d.marchMonth = d'.marchMonth ∧ d.day < d'.day) := by
    unfold Before at hbefore
    unfold marchYear marchMonth
    split <;> split <;> omega
  rw [dayNumber_eq, dayNumber_eq]
  rcases hmarch with hyear | ⟨hyear, hmonth | ⟨hmonth, hd⟩⟩
  · have hstart := yearStart_lt hyear
    have hplace := place_le_yearLength h
    omega
  · have hplace := place_le_daysBefore h hmonth (Nat.mod_lt _ (by decide))
    rw [hyear]
    omega
  · rw [hyear, hmonth]
    omega

/-! ### The date of a day -/

/-- A day of four hundred years lies in one of four centuries, in one of its spans of four years and
in one of their years.  Only the last year of a span has a 366th day, and the last year of a century
has it only in the last century. -/
theorem exists_year (n : Nat) (h : n < 146097) :
    ∃ century span year day, n = 36524 * century + 1461 * span + 365 * year + day ∧
      century < 4 ∧ span < 25 ∧ year < 4 ∧ day ≤ 365 ∧
      (day = 365 → year = 3 ∧ (span = 24 → century = 3)) := by
  have hcentury : ∃ century rest, n = 36524 * century + rest ∧ century < 4 ∧ rest ≤ 36524 ∧
      (rest = 36524 → century = 3) := by
    rcases Nat.lt_or_ge n 146096 with hlt | hge
    · exact ⟨n / 36524, n % 36524, by omega, by omega, by omega, by omega⟩
    · exact ⟨3, 36524, by omega, by omega, by omega, by omega⟩
  obtain ⟨century, rest, rfl, hcentury, hrest, hlast⟩ := hcentury
  have hyear : ∃ year day, rest % 1461 = 365 * year + day ∧ year < 4 ∧ day ≤ 365 ∧
      (day = 365 → year = 3) := by
    rcases Nat.lt_or_ge (rest % 1461) 1460 with hlt | hge
    · exact ⟨rest % 1461 / 365, rest % 1461 % 365, by omega, by omega, by omega, by omega⟩
    · exact ⟨3, 365, by omega, by omega, by omega, by omega⟩
  obtain ⟨year, day, hday, hyear, hle, hleap⟩ := hyear
  refine ⟨century, rest / 1461, year, day, by omega, hcentury, by omega, hyear, hle, fun h =>
    ⟨hleap h, fun hspan => hlast ?_⟩⟩
  have := hleap h
  omega

/-- The year is found by taking out the odd days first. -/
theorem year_eq {century span year day : Nat} (hcentury : century < 4) (hspan : span < 25)
    (hyear : year < 4) (hday : day ≤ 365)
    (hleap : day = 365 → year = 3 ∧ (span = 24 → century = 3)) :
    let n := 36524 * century + 1461 * span + 365 * year + day
    (n - n / 1460 + n / 36524 - n / 146096) / 365 = 100 * century + 4 * span + year := by
  intro n
  have hodd : n / 1460 = 25 * century + span +
      (if 1460 ≤ 24 * century + span + 365 * year + day then 1 else 0) := by
    split <;> omega
  -- the very last day would begin a fifth century
  have hrest : 1461 * span + 365 * year + day < 36524 ∨
      1461 * span + 365 * year + day = 36524 ∧ century = 3 := by
    omega
  have hcenturies : n / 36524 = century + n / 146096 := by
    rcases hrest with hlt | ⟨heq, rfl⟩
    · have hn : n / 146096 = 0 := by omega
      omega
    · have hn : n = 146096 := by omega
      rw [hn]
  split at hodd <;> omega

/-- A day of four hundred years has a year and a place in it, and the year is the one that is
found. -/
theorem exists_yearOfEra (n : Nat) (h : n < 146097) :
    ∃ year day, year < 400 ∧ day ≤ 365 ∧
      (day = 365 → (year + 1) % 4 = 0 ∧ ((year + 1) % 100 ≠ 0 ∨ (year + 1) % 400 = 0)) ∧
      n = 365 * year + year / 4 - year / 100 + day ∧
      (n - n / 1460 + n / 36524 - n / 146096) / 365 = year := by
  obtain ⟨century, span, year, day, rfl, hcentury, hspan, hyear, hday, hleap⟩ := exists_year n h
  have hspans : (100 * century + 4 * span + year) / 4 = 25 * century + span := by omega
  have hcenturies : (100 * century + 4 * span + year) / 100 = century := by omega
  exact ⟨100 * century + 4 * span + year, day, by omega, hday, by omega, by omega,
    year_eq hcentury hspan hyear hday hleap⟩

/-- Every four hundred years the calendar is the same. -/
theorem yearStart_add_eras (year : Nat) (era : Int) (h : year < 400) :
    yearStart (year + era * 400) =
      eraStart - 1 + era * daysInEra + (365 * year + year / 4 - year / 100 : Nat) := by
  unfold yearStart daysInEra
  omega

/-- The date of the day behind so many days of a year that begins in March. -/
def ofPlace (year : Int) (day : Nat) : Date :=
  let month := (5 * day + 2) / 153
  ⟨if month < 10 then year else year + 1, if month < 10 then month + 3 else month - 9,
    day - daysBefore month + 1⟩

/-- The year of a day in the count, and its place in the year. -/
theorem exists_place (n : Int) :
    ∃ (year : Int) (day : Nat), n = yearStart year + day + 1 ∧ day + 1 ≤ yearLength year ∧
      ofDayNumber n = ofPlace year day := by
  obtain ⟨era, rest, hera, hrest, hn, hlt⟩ : ∃ (era : Int) (rest : Nat),
      (n - eraStart) / daysInEra = era ∧ ((n - eraStart) % daysInEra).toNat = rest ∧
        n = eraStart + era * daysInEra + rest ∧ rest < 146097 := by
    unfold daysInEra
    exact ⟨_, _, rfl, rfl, by omega, by omega⟩
  obtain ⟨year, day, hyear, hday, hleap, hplace, hfound⟩ := exists_yearOfEra rest hlt
  have hback : rest - (365 * year + year / 4 - year / 100) = day := by omega
  refine ⟨year + era * 400, day, ?_, ?_, ?_⟩
  · rw [yearStart_add_eras year era hyear]
    omega
  · have hlong : day = 365 → isLeapYear (year + era * 400 + 1) = true := by
      intro h
      have := hleap h
      exact isLeapYear_iff.2 (by omega)
    unfold yearLength
    split
    · omega
    next hcommon =>
      have := mt hlong hcommon
      omega
  · unfold ofDayNumber
    simp only [hera, hrest, hfound, hback]
    rfl

/-- A place in a year that begins in March has that year and its month. -/
theorem march_ofPlace {year : Int} {day : Nat} (h : day + 1 ≤ yearLength year) :
    (ofPlace year day).marchYear = year ∧
      (ofPlace year day).marchMonth = (5 * day + 2) / 153 ∧
      1 ≤ (ofPlace year day).month ∧ (ofPlace year day).month ≤ 12 := by
  have hmonth : (5 * day + 2) / 153 < 12 := by
    have hlength : yearLength year ≤ 366 := by
      unfold yearLength
      split <;> omega
    omega
  unfold ofPlace marchYear marchMonth
  by_cases hspring : (5 * day + 2) / 153 < 10
  · simp only [hspring, if_true]
    omega
  · simp only [hspring, if_false]
    omega

/-- The month of a place begins at it or before, and the next month behind it. -/
theorem daysBefore_place (day : Nat) :
    daysBefore ((5 * day + 2) / 153) ≤ day ∧ day + 1 ≤ daysBefore ((5 * day + 2) / 153 + 1) := by
  unfold daysBefore
  omega

/-- A place in a year is a real date. -/
theorem isReal_ofPlace {year : Int} {day : Nat} (h : day + 1 ≤ yearLength year) :
    (ofPlace year day).isReal = true := by
  obtain ⟨hyear, hmonth, hfirst, hlast⟩ := march_ofPlace h
  obtain ⟨hbegin, hend⟩ := daysBefore_place day
  have hfill := daysBefore_add_daysInMonth ⟨hfirst, hlast⟩
  have hday : (ofPlace year day).day = day - daysBefore ((5 * day + 2) / 153) + 1 := rfl
  rw [hmonth, hyear] at hfill
  refine isReal_iff.2 ⟨hfirst, hlast, by omega, ?_⟩
  split at hfill <;> omega

/-- The day of a place in a year. -/
theorem dayNumber_ofPlace {year : Int} {day : Nat} (h : day + 1 ≤ yearLength year) :
    (ofPlace year day).dayNumber = yearStart year + day + 1 := by
  obtain ⟨hyear, hmonth, -, -⟩ := march_ofPlace h
  have hbegin := (daysBefore_place day).1
  have hday : (ofPlace year day).day = day - daysBefore ((5 * day + 2) / 153) + 1 := rfl
  rw [dayNumber_eq, hyear, hmonth, hday]
  omega

/-- **Each day in the count is the day of a real date.** -/
theorem isReal_ofDayNumber (n : Int) : (ofDayNumber n).isReal = true := by
  obtain ⟨year, day, -, hday, heq⟩ := exists_place n
  rw [heq]
  exact isReal_ofPlace hday

@[simp] theorem dayNumber_ofDayNumber (n : Int) : (ofDayNumber n).dayNumber = n := by
  obtain ⟨year, day, hn, hday, heq⟩ := exists_place n
  rw [heq, dayNumber_ofPlace hday, ← hn]

/-- Dates that are not in order are the same date. -/
theorem before_trichotomy (d d' : Date) : d.Before d' ∨ d = d' ∨ d'.Before d := by
  obtain ⟨year, month, day⟩ := d
  obtain ⟨year', month', day'⟩ := d'
  simp only [Before, Date.mk.injEq]
  omega

/-- A day has one real date. -/
theorem eq_of_dayNumber_eq {d d' : Date} (h : d.isReal = true) (h' : d'.isReal = true)
    (heq : d.dayNumber = d'.dayNumber) : d = d' := by
  rcases before_trichotomy d d' with hbefore | hsame | hbehind
  · have hlt := dayNumber_lt_of_before h h' hbefore
    omega
  · exact hsame
  · have hlt := dayNumber_lt_of_before h' h hbehind
    omega

/-- **A real date is the date of its day.** -/
theorem ofDayNumber_dayNumber {d : Date} (h : d.isReal = true) : ofDayNumber d.dayNumber = d :=
  eq_of_dayNumber_eq (isReal_ofDayNumber _) h (dayNumber_ofDayNumber _)

/-- No day of a year comes before the first of January. -/
theorem dayNumber_newYear_le {d : Date} (h : d.isReal = true) {year : Int} (hyear : year ≤ d.year) :
    (Date.mk year 1 1).dayNumber ≤ d.dayNumber := by
  obtain ⟨hfirst, -, hday, -⟩ := isReal_iff.1 h
  have hreal : (Date.mk year 1 1).isReal = true := by simp [isReal, daysInMonth]
  rcases before_trichotomy ⟨year, 1, 1⟩ d with hbefore | rfl | hbehind
  · exact Int.le_of_lt (dayNumber_lt_of_before hreal h hbefore)
  · exact Int.le_refl _
  · simp only [Before] at hbehind
    omega

/-- No day of a year comes behind the last of December. -/
theorem dayNumber_le_yearEnd {d : Date} (h : d.isReal = true) {year : Int} (hyear : d.year ≤ year) :
    d.dayNumber ≤ (Date.mk year 12 31).dayNumber := by
  obtain ⟨-, hlast, -, hday⟩ := isReal_iff.1 h
  have hmonth := daysInMonth_le d.year d.month
  have hreal : (Date.mk year 12 31).isReal = true := by simp [isReal, daysInMonth]
  rcases before_trichotomy d ⟨year, 12, 31⟩ with hbefore | rfl | hbehind
  · exact Int.le_of_lt (dayNumber_lt_of_before h hreal hbefore)
  · exact Int.le_refl _
  · simp only [Before] at hbehind
    omega

/-- **The calendar goes up with the count.** -/
theorem before_ofDayNumber_iff {n m : Int} : (ofDayNumber n).Before (ofDayNumber m) ↔ n < m := by
  have hlt : ∀ {n m : Int}, (ofDayNumber n).Before (ofDayNumber m) → n < m := by
    intro n m h
    simpa using dayNumber_lt_of_before (isReal_ofDayNumber n) (isReal_ofDayNumber m) h
  refine ⟨hlt, fun h => ?_⟩
  rcases before_trichotomy (ofDayNumber n) (ofDayNumber m) with hbefore | heq | hbehind
  · exact hbefore
  · have := congrArg dayNumber heq
    simp only [dayNumber_ofDayNumber] at this
    omega
  · have := hlt hbehind
    omega

end ContactBook.Calendar.Date
