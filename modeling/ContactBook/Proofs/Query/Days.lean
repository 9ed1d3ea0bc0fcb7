/-
**Times are equal when their days are.**

A condition that a time equals a value does not ask for the instant.  It asks for the day, in
universal time, and the value may be a date or a whole timestamp.  A contact is found by a date just
when it was created on that day, however late in the day, and by a timestamp just when that denotes
an instant of the day, whatever the zone it was written in.  The same goes for the last update and
the last activity.

It is so for timestamps that are legible.  A request may write a time with a small letter between
date and time, and such a time creates a contact on its day, but as a value it finds nothing:
`Book.missed_by_small_letter` is an example.

Main definitions:

* `ContactBook.Draft.time?` — the times that a contact is added with;
* `ContactBook.Store.FindsIff` — what it takes to be found by an equality.

Main results:

* `ContactBook.Store.findsIff_of_sameDay` — a time is found by the values that name its day;
* `ContactBook.Book.found_by_day` — **which dates and timestamps find a contact that was added**;
* `ContactBook.Book.missed_by_small_letter` — a timestamp of the day that does not.
-/

import ContactBook.Proofs.Calendar.TimeValue
import ContactBook.Proofs.Query.Dependence
import ContactBook.Proofs.Store.Writes

set_option autoImplicit false

namespace ContactBook

open Calendar (Date Instant Timestamp)

/-! ### The times of a draft -/

/-- The instant that a draft puts into a column, if it is one for times and there is one. -/
def Draft.time? (d : Draft) (now : Instant) : Column → Option Instant
  | .createdAt | .updatedAt => some (d.createdAt.getD now)
  | .lastActivityAt => d.lastActivityAt
  | _ => none

variable {d : Draft} {now x : Instant} {column : Column}

theorem Draft.text?_record (h : d.time? now column = some x) (tenant : String) :
    (d.record tenant now).text? column = some x.stored := by
  cases column with
  | createdAt | updatedAt =>
      obtain rfl := Option.some.inj h
      rfl
  | lastActivityAt =>
      change d.lastActivityAt.map Instant.stored = _
      rw [show d.lastActivityAt = some x from h, Option.map_some]
  | _ => exact nomatch h

/-- Filters can name the columns for times. -/
theorem Draft.named?_of_time?_eq_some (h : d.time? now column = some x) :
    Field.named? column.name = some (.own column .date) := by
  cases column with
  | createdAt | updatedAt | lastActivityAt => decide +kernel
  | _ => exact nomatch h

/-! ### Equality of times -/

namespace Store

variable {s : Store} {r : Record} {text value : String}

/-- **What it takes to be found by an equality of times.**  Under one condition, and under no other,
the equality holds of a contact on every day; and every engine answers a query of its organisation
for the equality alone, with the contact in the answer under the same condition. -/
structure FindsIff (s : Store) (r : Record) (column : Column) (value : String) (condition : Prop) :
    Prop where
  satisfies : ∀ today : Int,
    s.Satisfies today r (.own column .date) ⟨column.name, .equals, value⟩ ↔ condition
  answers : ∀ (e : Engine) (today : Int) (connective : Connective), ∃ records,
    (Query.matching r.organizationId
      (some ⟨[⟨column.name, .equals, value⟩], connective⟩) none).run e today s = .ok records ∧
      (r ∈ records ↔ condition)

/-- The condition can be said in other words. -/
theorem FindsIff.congr {condition condition' : Prop} (h : s.FindsIff r column value condition)
    (hiff : condition ↔ condition') : s.FindsIff r column value condition' := by
  refine ⟨fun today => (h.satisfies today).trans hiff, fun e today connective => ?_⟩
  obtain ⟨records, hrun, hmem⟩ := h.answers e today connective
  exact ⟨records, hrun, hmem.trans hiff⟩

/-- A time satisfies an equality when both texts name one day. -/
theorem satisfies_sameDay_iff {today : Int} (htext : r.text? column = some text) {name : String} :
    s.Satisfies today r (.own column .date) ⟨name, .equals, value⟩ ↔
      ∃ day, Calendar.dayOf? today text = some day ∧ Calendar.dayOf? today value = some day := by
  constructor
  · rintro ⟨found, hfound, haccepts⟩
    cases hfound with
    | own h =>
        obtain rfl := Option.some.inj (htext.symm.trans h)
        exact haccepts
  · intro h
    exact ⟨text, .own htext, h⟩

/-- The query for one equality of times has one test. -/
theorem matching_sameDay_eq (hfield : Field.named? column.name = some (.own column .date))
    (tenant value : String) (connective : Connective) :
    Query.matching tenant (some ⟨[⟨column.name, .equals, value⟩], connective⟩) none =
      ⟨[⟨connective, [⟨.column column, .sameDay, 1⟩]⟩], [tenant, value]⟩ := by
  simp [Query.matching, Query.compile, Query.andGroup, Query.Group.ofFilter, Query.registered,
    Query.ofTenant, hfield, Query.testsFrom, Query.Junction.shift, Query.Test.shift,
    Query.operandOf, Query.comparisonOf, Condition.bound, Operator.bound]

/-- It compares nothing with a pattern and is not nested deep. -/
theorem run_matching_sameDay (hfield : Field.named? column.name = some (.own column .date))
    (e : Engine) (today : Int) (tenant value : String) (connective : Connective) :
    ∃ records, (Query.matching tenant
      (some ⟨[⟨column.name, .equals, value⟩], connective⟩) none).run e today s = .ok records := by
  rw [matching_sameDay_eq hfield]
  refine ⟨_, Query.run_of_not_hasPatterns rfl ?_⟩
  change 5 ≤ Query.maxDepth
  decide

/-- **A time is found by the values that name its day.** -/
theorem findsIff_of_sameDay (hr : r ∈ s.contacts)
    (hfield : Field.named? column.name = some (.own column .date))
    (htext : r.text? column = some text) {condition : Prop}
    (hday : ∀ today, (∃ day, Calendar.dayOf? today text = some day ∧
      Calendar.dayOf? today value = some day) ↔ condition) :
    s.FindsIff r column value condition := by
  have hsatisfies : ∀ today : Int,
      s.Satisfies today r (.own column .date) ⟨column.name, .equals, value⟩ ↔ condition :=
    fun today => (satisfies_sameDay_iff htext).trans (hday today)
  refine ⟨hsatisfies, fun e today connective => ?_⟩
  obtain ⟨records, hrun⟩ := run_matching_sameDay hfield e today r.organizationId value connective
  refine ⟨records, hrun, ?_⟩
  rw [Query.mem_of_run_eq_ok hrun, Query.selects_matching_iff, ← hsatisfies today,
    ← passes_singleton_iff hfield]
  constructor
  · rintro ⟨-, hmeans⟩
    exact hmeans.passes _ rfl
  · intro h
    refine ⟨hr, rfl, fun f hf => Option.some.inj hf ▸ h, fun _ hsearch => ?_⟩
    cases hsearch

end Store

/-! ### Contacts that were added -/

namespace Book

/-- **Which dates and timestamps find a contact that was added.**  The contact is looked for by its
time of creation, of its last update, or of its last activity if there was one; leap seconds are
left aside.  Wherever its row is kept, a real date in the years of four digits finds it just when it
is the date of the instant in universal time.  A timestamp with a zone of no more than 14 hours is
read as the instant that it denotes, and it finds the contact just when both instants are on one
day, up to the end of the year 9999, and it is legible: a capital letter or a space stands between
date and time, the second is no leap second, and the fraction fits.  All fractions do that have no
more than 308 digits behind the zeros in front. -/
theorem found_by_day {b left : Book} {tenant : String} {draft : Draft} {now : Instant}
    (hadded : b.addContact tenant draft now = (.ok (), left)) :
    ∃ r ∈ left.store.contacts, r.id = draft.id ∧ r.organizationId = tenant ∧
      ∀ s : Store, r ∈ s.contacts → ∀ column x, draft.time? now column = some x →
        x.IsValid → x.nanosecond < Instant.nanosecondsInSecond →
          (∀ d : Date, d.isReal = true → 0 ≤ d.year ∧ d.year ≤ 9999 →
            s.FindsIff r column d.text (Date.ofDayNumber x.day = d)) ∧
          ∀ t : Timestamp, t.IsWritten 14 →
            Instant.ofRfc3339? t.text = some t.instant ∧
            s.FindsIff r column t.text
              ((t.separator ≠ 't' ∧ t.second ≠ 60 ∧
                  Calendar.TimeValue.fractionFits t.fraction = true) ∧
                t.instant.day = x.day ∧ x.day ≤ Calendar.TimeValue.lastDay) ∧
            ((t.fraction.dropWhile (· == '0')).length ≤ 308 →
              Calendar.TimeValue.fractionFits t.fraction = true) := by
  have hleft := (left_of_addContact hadded).2 rfl
  have hr : draft.record tenant now ∈ left.store.contacts := by
    rw [hleft]
    exact List.mem_append_right _ List.mem_cons_self
  refine ⟨_, hr, rfl, rfl, fun s hs column x hx hvalid hleap => ⟨?_, ?_⟩⟩
  · intro d hreal hyear
    exact Store.findsIff_of_sameDay hs (Draft.named?_of_time?_eq_some hx)
      (Draft.text?_record hx tenant) fun today =>
        Calendar.TimeValue.sameDay_date_iff today hvalid hleap hreal hyear
  · intro t ht
    have hfinds := Store.findsIff_of_sameDay hs (Draft.named?_of_time?_eq_some hx)
      (Draft.text?_record hx tenant) fun today =>
        Calendar.TimeValue.sameDay_text_iff today hvalid hleap ht
    rw [Timestamp.isLegible_iff] at hfinds
    exact ⟨Timestamp.ofRfc3339?_text (ht.mono (by decide)), hfinds,
      Calendar.TimeValue.fractionFits_of_length_le ht.fraction⟩

/-- A contact is created in the last nanosecond of a leap day.  The date of that day finds it, and a
timestamp of the day before in a zone far behind; the next date does not. -/
theorem found_by_day_leapDay :
    let b : Book := { policy := .lenient, store := .empty }
    let created : Instant := ⟨2460370, 86399, 999999999⟩
    let draft : Draft := { id := "c1", createdAt := some created }
    let t : Timestamp := ⟨⟨2024, 2, 28⟩, 'T', 23, 30, 0, ['5'], .behind 14 0⟩
    ∃ left, b.addContact "acme" draft created = (.ok (), left) ∧ created.IsValid ∧
      t.IsWritten 14 ∧ t.text = "2024-02-28T23:30:00.5-14:00" ∧
      ∃ r ∈ left.store.contacts, r.id = "c1" ∧
        left.store.FindsIff r .createdAt "2024-02-29" True ∧
        left.store.FindsIff r .createdAt "2024-03-01" False ∧
        left.store.FindsIff r .createdAt t.text True := by
  intro b created draft t
  have hadded : b.addContact "acme" draft created =
      (.ok (), (b.addContact "acme" draft created).2) := rfl
  have hvalid : created.IsValid := by decide +kernel
  have ht : t.IsWritten 14 := by decide +kernel
  obtain ⟨r, hr, hid, -, hfound⟩ := found_by_day hadded
  obtain ⟨hdates, htexts⟩ := hfound _ hr .createdAt created rfl hvalid (by decide)
  have hleapDay := hdates ⟨2024, 2, 29⟩ (by decide) (by decide)
  have hmarch := hdates ⟨2024, 3, 1⟩ (by decide) (by decide)
  rw [show Date.text ⟨2024, 2, 29⟩ = "2024-02-29" by decide +kernel] at hleapDay
  rw [show Date.text ⟨2024, 3, 1⟩ = "2024-03-01" by decide +kernel] at hmarch
  exact ⟨_, hadded, hvalid, ht, by decide +kernel, r, hr, hid,
    hleapDay.congr (iff_true_intro (by decide +kernel)),
    hmarch.congr (iff_false_intro (by decide +kernel)),
    (htexts t ht).2.1.congr (iff_true_intro (by decide +kernel))⟩

/-- **A timestamp of the day that does not find the contact.**  A request can create a contact with
it, but a listing of the contacts that were created on its day is empty. -/
theorem missed_by_small_letter :
    let b : Book := { policy := .lenient, store := .empty }
    let created : Instant := ⟨2460375, 43200, 0⟩
    let draft : Draft := { id := "c1", createdAt := some created }
    let t : Timestamp := ⟨⟨2024, 3, 5⟩, 't', 12, 0, 0, [], .universal 'Z'⟩
    t.IsWritten 14 ∧ t.text = "2024-03-05t12:00:00Z" ∧
      Instant.ofRfc3339? t.text = some created ∧ t.instant = created ∧
      ∃ left, b.addContact "acme" draft created = (.ok (), left) ∧
        left.listIds newYear "acme" (some ⟨[⟨"createdAt", .equals, t.text⟩], .all⟩) none = .ok [] ∧
        left.listIds newYear "acme" (some ⟨[⟨"createdAt", .equals, "2024-03-05"⟩], .all⟩) none =
          .ok ["c1"] := by
  intro b created draft t
  exact ⟨by decide +kernel, by decide +kernel, by decide +kernel, by decide +kernel, _, rfl,
    by decide +kernel, by decide +kernel⟩

end Book

end ContactBook
