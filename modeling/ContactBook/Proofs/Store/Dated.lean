/-
**Stored times are those of instants.**

A time column holds whatever text is put into it.  A contact that is added gets the texts of
instants, and apart from the call that puts a text into a column nothing writes there again.  So in
a store that such calls led to every time can be read back, and every contact can be listed.

Main definitions:

* `ContactBook.Record.Dated` — a row whose times are those of instants;
* `ContactBook.Contact.Shows` — a contact as a row is listed;
* `ContactBook.Call.Dated` — a call that leaves such rows.

Main results:

* `ContactBook.Store.dated_apply`, `ContactBook.Store.ReachableBy.dated` — a call keeps the rows
  dated, and so all rows are that calls led to;
* `ContactBook.Record.Dated.exists_ofRecord` — **a dated row is listed as it is kept**;
* `ContactBook.Store.sameOn_iff_of_dated` — in a store of dated rows only the filter tells days
  apart.
-/

import ContactBook.Proofs.Calendar.Order
import ContactBook.Proofs.Calendar.TimeValue
import ContactBook.Proofs.Store.Reachable

set_option autoImplicit false

namespace ContactBook

open Calendar (Instant)

/-! ### Rows -/

/-- **A row whose times are those of instants.**  The contact was created in a year of four digits,
and it has not been updated since. -/
structure Record.Dated (r : Record) : Prop where
  /-- The text of an instant stands for the creation, and for the last update as well. -/
  created : ∃ x : Instant, x.IsValid ∧ x.InFourDigits ∧ r.createdAt = x.stored ∧
    r.updatedAt = x.stored
  /-- If there was an activity the text of an instant stands for the last one. -/
  active : ∀ text ∈ r.lastActivityAt, ∃ x : Instant, x.IsValid ∧ text = x.stored

/-- **A contact as a row is listed**: its columns, the instants of its times, its data if that can
be read, and its tags in ascending order. -/
structure Contact.Shows (c : Contact) (r : Record) (tagNames : List String) : Prop where
  id : c.id = r.id
  organizationId : c.organizationId = r.organizationId
  attributes : c.attributes = r.attributes
  createdAt : c.createdAt.IsValid ∧ c.createdAt.stored = r.createdAt
  updatedAt : c.updatedAt.IsValid ∧ c.updatedAt.stored = r.updatedAt
  lastActivityAt : (∀ x ∈ c.lastActivityAt, x.IsValid) ∧
    c.lastActivityAt.map Instant.stored = r.lastActivityAt
  additionalData : c.additionalData = r.additionalData.bind fun text => (Json.parse text).toOption
  status : c.status = statusOf? c.additionalData
  tags : c.tags = Store.sorted tagNames

/-- The stored text of an instant is read back in any column. -/
theorem Listing.time_stored (column : Column) {x : Instant} (h : x.IsValid) :
    Listing.time column x.stored = .ok x := by
  rw [Listing.time, Instant.ofStored_stored h]
  rfl

namespace Record.Dated

variable {r : Record}

/-- **A dated row is listed as it is kept.** -/
theorem exists_ofRecord (h : r.Dated) (tagNames : List String) :
    ∃ c, Contact.ofRecord r tagNames = .ok c ∧ c.Shows r tagNames ∧
      c.createdAt.InFourDigits := by
  obtain ⟨x, hx, hyear, hcreated, hupdated⟩ := h.created
  have hactive : ∃ last : Option Instant,
      r.lastActivityAt.mapM (Listing.time .lastActivityAt) = .ok last ∧
        (∀ y ∈ last, y.IsValid) ∧ last.map Instant.stored = r.lastActivityAt := by
    have hread := h.active
    cases hlast : r.lastActivityAt with
    | none => exact ⟨none, rfl, by simp, rfl⟩
    | some text =>
        rw [hlast] at hread
        obtain ⟨y, hy, rfl⟩ := hread text rfl
        exact ⟨some y, by simp [Listing.time_stored _ hy], by simpa using hy, rfl⟩
  obtain ⟨last, hlast, hstored⟩ := hactive
  have hread : Contact.ofRecord r tagNames = .ok ⟨r.id, r.organizationId, r.attributes, x, x, last,
      r.additionalData.bind fun text => (Json.parse text).toOption,
      statusOf? (r.additionalData.bind fun text => (Json.parse text).toOption),
      Store.sorted tagNames⟩ := by
    simp only [Contact.ofRecord, hcreated, hupdated, Listing.time_stored _ hx, hlast, bind,
      Except.bind]
    rfl
  exact ⟨_, hread,
    ⟨rfl, rfl, rfl, ⟨hx, hcreated.symm⟩, ⟨hx, hupdated.symm⟩, hstored, rfl, rfl, rfl⟩, hyear⟩

end Record.Dated

/-! ### Calls -/

/-- **A call that leaves dated rows.**  A contact is added as of an instant in a year of four
digits, and if there was an activity then at an instant.  To put a text into a column is not such a
call. -/
def Call.Dated : Call → Prop
  | .addContact _ draft now =>
    ((draft.createdAt.getD now).IsValid ∧ (draft.createdAt.getD now).InFourDigits) ∧
      ∀ x ∈ draft.lastActivityAt, x.IsValid
  | .overwrite _ _ _ => False
  | .tagContact _ _ _ | .addWorkflow _ _ | .delete _ _ _ => True

instance : DecidablePred Call.Dated
  | .addContact _ draft now =>
    inferInstanceAs (Decidable (((draft.createdAt.getD now).IsValid ∧
      (draft.createdAt.getD now).InFourDigits) ∧ ∀ x ∈ draft.lastActivityAt, x.IsValid))
  | .overwrite _ _ _ => .isFalse id
  | .tagContact _ _ _ | .addWorkflow _ _ | .delete _ _ _ => .isTrue trivial

namespace Store

/-- A call keeps the rows dated. -/
theorem dated_apply {b : Book} (hb : b.store.Integrity) {c : Call} (hc : c.Dated)
    (h : ∀ r ∈ b.store.contacts, r.Dated) : ∀ r ∈ (c.apply b).store.contacts, r.Dated := by
  have hleaves := c.leaves hb.contact_ids
  generalize (c.apply b).store = s' at hleaves
  cases hleaves with
  | nothing => exact h
  | @addContact tenant draft now s' hs =>
      obtain ⟨-, rfl⟩ := addContact_eq_ok_iff.1 hs
      intro r hr
      rcases List.mem_append.1 hr with hr | hr
      · exact h r hr
      · obtain rfl := List.mem_singleton.1 hr
        refine ⟨⟨_, hc.1.1, hc.1.2, rfl, rfl⟩, fun text htext => ?_⟩
        obtain ⟨x, hx, rfl⟩ := Option.map_eq_some_iff.1 htext
        exact ⟨x, hc.2 x hx, rfl⟩
  | tagContact tenant contactId name =>
      rw [contacts_tagContact]
      exact h
  | addWorkflow hs =>
      obtain ⟨-, -, rfl⟩ := addWorkflow_eq_ok_iff.1 hs
      exact h
  | overwrite hs => exact hc.elim
  | delete today request hsettled => exact fun r hr => h r (List.mem_filter.1 hr).1

/-- Dated rows keep no word for the present day. -/
theorem keepsToday_of_dated {s : Store} (h : ∀ r ∈ s.contacts, r.Dated) : s.keepsToday = false := by
  have hnone : ∀ r ∈ s.contacts, ∀ c ∈ Column.times, ∀ text ∈ r.text? c,
      Calendar.namesPresent text = false := by
    intro r hr c hc text htext
    obtain ⟨x, -, -, hcreated, hupdated⟩ := (h r hr).created
    simp only [Column.times, List.mem_cons, List.not_mem_nil, or_false] at hc
    rcases hc with rfl | rfl | rfl
    · obtain rfl : r.createdAt = text := Option.some.inj htext
      rw [hcreated, Calendar.TimeValue.namesPresent_stored]
    · obtain rfl : r.updatedAt = text := Option.some.inj htext
      rw [hupdated, Calendar.TimeValue.namesPresent_stored]
    · obtain ⟨y, -, rfl⟩ := (h r hr).active text htext
      exact Calendar.TimeValue.namesPresent_stored y
  simp only [keepsToday, List.any_eq_false, List.any_eq_true, Option.any_eq_true]
  rintro r hr ⟨c, hc, text, htext, hword⟩
  rw [hnone r hr c hc text htext] at hword
  exact Bool.false_ne_true hword

/-- **In a store of dated rows only the filter tells days apart.** -/
theorem sameOn_iff_of_dated {s : Store} (h : ∀ r ∈ s.contacts, r.Dated) {filter : Option Filter}
    {day day' : Int} :
    s.SameOn filter day day' ↔ day = day' ∨ filter.any Filter.asksToday = false := by
  rw [SameOn, keepsToday_of_dated h]
  simp only [and_true]

/-- **All rows are dated that such calls led to.** -/
theorem ReachableBy.dated {s : Store} (h : s.ReachableBy Call.Dated) :
    ∀ r ∈ s.contacts, r.Dated := by
  induction h with
  | empty => exact fun _ hr => absurd hr List.not_mem_nil
  | call hc hb ih => exact dated_apply hb.integrity hc ih

end Store

end ContactBook
