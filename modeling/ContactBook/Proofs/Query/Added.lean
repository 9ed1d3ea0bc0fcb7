/-
**A contact that is added is listed as it was written.**

A contact is written as a row of texts and listed by reading the row again, column by column and in
another order.  This module proves that nothing is lost or exchanged on the way, and that the
contact makes no difference to the others: a listing of the whole organisation that succeeded before
succeeds afterwards, on whatever day, and it shows what it showed before, in the same order, with
the new contact in one place.

Main definitions:

* `ContactBook.Draft.contact` — a draft as it is listed;
* `ContactBook.Draft.IsReadable` — drafts whose rows can be read again.

Main results:

* `ContactBook.Contact.ofRecord_record` — **the row of a draft is read back as the draft**;
* `ContactBook.Query.exists_insert_listed` — a contact has its place in an answer;
* `ContactBook.Store.list_insert` — so it has in a listing, between contacts that stay as they were;
* `ContactBook.Book.list_added` — **what a listing shows after a contact was added**.
-/

import ContactBook.Proofs.Store.Dated
import ContactBook.Proofs.Store.Writes

set_option autoImplicit false

namespace ContactBook

open Calendar (Instant)

/-! ### Rows of drafts -/

/-- **A draft as it is listed**: its attributes, its times, its data with the status in it, and the
tags that the contact has by then. -/
def Draft.contact (d : Draft) (tenant : String) (now : Instant) (tags : List String) : Contact where
  id := d.id
  organizationId := tenant
  attributes := d.attributes
  createdAt := d.createdAt.getD now
  updatedAt := d.createdAt.getD now
  lastActivityAt := d.lastActivityAt
  additionalData := d.additionalData
  status := statusOf? d.additionalData
  tags := tags

/-- **Drafts whose rows can be read again**: the times are instants that there are, and the data is
read from its text. -/
structure Draft.IsReadable (d : Draft) (now : Instant) : Prop where
  created : (d.createdAt.getD now).IsValid
  active : ∀ x ∈ d.lastActivityAt, x.IsValid
  data : ∀ v ∈ d.additionalData, Json.parse v.render = .ok v

/-- **The row of a draft is read back as the draft.** -/
theorem Contact.ofRecord_record {d : Draft} {now : Instant} (h : d.IsReadable now)
    (tenant : String) (tagNames : List String) :
    Contact.ofRecord (d.record tenant now) tagNames =
      .ok (d.contact tenant now (Store.sorted tagNames)) := by
  have hlast : (d.lastActivityAt.map Instant.stored).mapM (Listing.time .lastActivityAt) =
      .ok d.lastActivityAt := by
    cases hx : d.lastActivityAt with
    | none => rfl
    | some x => simp [Listing.time_stored _ (h.active x hx)]
  have hread : ((d.additionalData.map Json.Value.render).bind fun text =>
      (Json.parse text).toOption) = d.additionalData := by
    cases hv : d.additionalData with
    | none => rfl
    | some v => simp [h.data v hv, Except.toOption]
  simp only [Contact.ofRecord, Draft.record, Listing.time_stored _ h.created, hlast, hread, bind,
    Except.bind]
  rfl

/-! ### The place of a contact -/

namespace Query

variable {q : Query} {e : Engine} {today : Int} {s s' : Store} {r : Record}

/-- A contact has its place among contacts that are in the order of listings. -/
theorem exists_insert_listed {as : List Record}
    (h : as.Pairwise fun a b => listedBefore a b = true) (r : Record) :
    ∃ before after, as = before ++ after ∧
      (before ++ r :: after).Pairwise fun a b => listedBefore a b = true := by
  induction as with
  | nil => exact ⟨[], [], rfl, List.pairwise_singleton _ _⟩
  | cons a as ih =>
      obtain ⟨hfirst, hrest⟩ := List.pairwise_cons.1 h
      by_cases har : listedBefore a r = true
      · obtain ⟨before, after, rfl, hinserted⟩ := ih hrest
        refine ⟨a :: before, after, rfl, List.pairwise_cons.2 ⟨?_, hinserted⟩⟩
        intro b hb
        rcases List.mem_append.1 hb with hb | hb
        · exact hfirst b (List.mem_append_left _ hb)
        · rcases List.mem_cons.1 hb with rfl | hb
          · exact har
          · exact hfirst b (List.mem_append_right _ hb)
      · -- then it comes before the first, and so before all
        have hra : listedBefore r a = true := by
          have htotal := listedBefore_total a r
          rw [Bool.or_eq_true] at htotal
          exact htotal.resolve_left har
        refine ⟨[], a :: as, rfl, List.pairwise_cons.2 ⟨?_, h⟩⟩
        intro b hb
        rcases List.mem_cons.1 hb with rfl | hb
        · exact hra
        · exact listedBefore_trans _ _ _ hra (hfirst b hb)

/-- A contact that joins and is selected has its place in the answer, and the others keep theirs. -/
theorem run_insert (hids : (s'.contacts.map (·.id)).Nodup)
    (hcontacts : s'.contacts = s.contacts ++ [r]) (hnames : s'.tagNames = s.tagNames)
    (hselects : q.selects today s' r = true) (htrips : q.trips e today s' r = false)
    {records : List Record} (hrun : q.run e today s = .ok records) :
    ∃ before after, records = before ++ after ∧
      q.run e today s' = .ok (before ++ r :: after) := by
  have hsame : ∀ r : Record, (s.tagNames r.id).Perm (s'.tagNames r.id) :=
    fun r => .of_eq (by rw [hnames])
  obtain ⟨before, after, rfl, hlisted⟩ :=
    exists_insert_listed (pairwise_of_run_eq_ok hrun) r
  refine ⟨before, after, rfl, ?_⟩
  obtain ⟨hasked, hpassed, -⟩ := run_eq_ok_iff.1 hrun
  have hpasses : ∀ r ∈ s'.contacts, q.trips e today s' r = false := by
    rw [hcontacts]
    intro r' hr'
    rcases List.mem_append.1 hr' with hr' | hr'
    · exact (trips_of_perm (hsame r')).symm.trans (hpassed r' hr')
    · exact List.mem_singleton.1 hr' ▸ htrips
  have hselected : s'.contacts.filter (q.selects today s') =
      s.contacts.filter (q.selects today s) ++ [r] := by
    have hselects' : q.selects today s' = q.selects today s :=
      funext fun r => (selects_of_perm (hsame r)).symm
    rw [hselects'] at hselects
    rw [hcontacts, List.filter_append, hselects', List.filter_cons, if_pos hselects,
      List.filter_nil]
  have hperm : (before ++ r :: after).Perm (s'.contacts.filter (q.selects today s')) := by
    rw [hselected]
    exact List.perm_middle.trans
      (((perm_of_run_eq_ok hrun).cons r).trans (List.perm_append_singleton r _).symm)
  refine run_eq_ok_iff.2 ⟨hasked, hpasses, (eq_of_perm_of_listed (nodup_ids_listed ?_)
    (pairwise_listed _) hlisted ((List.mergeSort_perm _ _).trans hperm.symm)).symm⟩
  exact hids.sublist (List.filter_sublist.map _)

end Query

/-! ### Listings -/

/-- The results of a pass over two lists put together are the results of the two. -/
theorem mapM_append_eq_ok_iff {α β ε : Type} {f : α → Except ε β} {as as' : List α} {bs : List β} :
    (as ++ as').mapM f = .ok bs ↔
      ∃ cs cs', bs = cs ++ cs' ∧ as.mapM f = .ok cs ∧ as'.mapM f = .ok cs' := by
  simp only [mapM_eq_ok_iff]
  constructor
  · intro h
    have hfront := List.forall₂_take as.length h
    have hback := List.forall₂_drop as.length h
    rw [List.take_left] at hfront
    rw [List.drop_left] at hback
    exact ⟨_, _, (List.take_append_drop as.length bs).symm, hfront, hback⟩
  · rintro ⟨cs, cs', rfl, h, h'⟩
    exact List.rel_append h h'

namespace Store

variable {s s' : Store} {e : Engine} {today : Int} {q : Query} {r : Record}

/-- **A contact that joins has its place in a listing**, between contacts that stay as they were. -/
theorem list_insert (hids : (s'.contacts.map (·.id)).Nodup)
    (hcontacts : s'.contacts = s.contacts ++ [r]) (hnames : s'.tagNames = s.tagNames)
    (hselects : q.selects today s' r = true) (htrips : q.trips e today s' r = false) {c : Contact}
    (hc : Contact.ofRecord r (s'.tagNames r.id) = .ok c) {contacts : List Contact}
    (hlist : s.list e today q = .ok contacts) :
    ∃ before after, contacts = before ++ after ∧
      s'.list e today q = .ok (before ++ c :: after) := by
  obtain ⟨records, hrun, hread⟩ := list_eq_ok_iff.1 hlist
  obtain ⟨before, after, rfl, hrun'⟩ :=
    Query.run_insert hids hcontacts hnames hselects htrips hrun
  obtain ⟨cs, cs', rfl, hbefore, hafter⟩ := mapM_append_eq_ok_iff.1 hread
  refine ⟨cs, cs', rfl, list_eq_ok_iff.2 ⟨_, hrun', ?_⟩⟩
  rw [← hnames] at hbefore hafter
  refine mapM_append_eq_ok_iff.2 ⟨cs, c :: cs', rfl, hbefore, ?_⟩
  rw [List.mapM_cons, hc, hafter]
  rfl

/-- A contact that does not exist has no tags. -/
theorem tagNames_of_not_hasContact (h : s.Integrity) {id : String}
    (hid : s.hasContact id = false) : s.tagNames id = [] := by
  have hnone : (s.links.filter fun l => l.contactId == id) = [] := by
    refine List.filter_eq_nil_iff.2 fun l hl hmatch => ?_
    obtain ⟨r, hr, hr'⟩ := h.link_contact l hl
    have hthere := hasContact_iff.2 ⟨r, hr, hr'.trans (beq_iff_eq.1 hmatch)⟩
    exact Bool.false_ne_true (hid.symm.trans hthere)
  rw [tagNames, hnone]
  rfl

/-- No query for a whole organisation fails. -/
theorem trips_ofTenant (e : Engine) (today : Int) (s : Store) (tenant : String) (r : Record) :
    (Query.ofTenant tenant).trips e today s r = false := by
  rw [Query.trips, e.trips_eq_false today s r rfl, Bool.and_false]

/-- Whoever only adds contacts as of instants that there are can list a whole organisation. -/
theorem exists_list_ofTenant (h : s.ReachableBy Call.Dated) (e : Engine) (today : Int)
    (tenant : String) : ∃ contacts, s.list e today (.ofTenant tenant) = .ok contacts := by
  have hdepth : (Query.ofTenant tenant).depth ≤ Query.maxDepth := by
    change 3 ≤ Query.maxDepth
    decide
  have hrun : (Query.ofTenant tenant).run e today s = _ := Query.run_of_not_hasPatterns rfl hdepth
  have hread : ∀ r ∈ (s.contacts.filter ((Query.ofTenant tenant).selects today s)).mergeSort
      Query.listedBefore, ∃ c, Contact.ofRecord r (s.tagNames r.id) = .ok c := by
    intro r hr
    have hr := List.mem_filter.1 ((List.mergeSort_perm _ _).mem_iff.1 hr)
    exact ((h.dated r hr.1).exists_ofRecord _).imp fun _ hc => hc.1
  obtain ⟨contacts, hcontacts⟩ := exists_mapM_eq_ok hread
  exact ⟨contacts, list_eq_ok_iff.2 ⟨_, hrun, hcontacts⟩⟩

/-- A listing of a whole organisation is the same on all days. -/
theorem list_ofTenant_eq (tenant : String) (day day' : Int) :
    s.list e day (.ofTenant tenant) = s.list e day' (.ofTenant tenant) := by
  rw [list, list, Query.run_ofTenant_eq day day']

/-- **What the whole listing shows after a contact was added**: what it showed before, on whatever
day, and in one place the new contact as it was written. -/
theorem list_addContact (h : s.Integrity) {tenant : String} {draft : Draft} {now : Instant}
    (hdraft : draft.IsReadable now) (hs : s.addContact tenant draft now = .ok s')
    {shown : Int} {contacts : List Contact}
    (hlist : s.list e shown (.ofTenant tenant) = .ok contacts) (today : Int) :
    ∃ before after, contacts = before ++ after ∧
      s'.list e today (.ofTenant tenant) =
        .ok (before ++ draft.contact tenant now [] :: after) := by
  rw [list_ofTenant_eq tenant shown today] at hlist
  have hids := (h.addContact hs).contact_ids
  obtain ⟨hnew, rfl⟩ := addContact_eq_ok_iff.1 hs
  have htags : s.tagNames draft.id = [] := tagNames_of_not_hasContact h hnew
  have hread := Contact.ofRecord_record hdraft tenant []
  have hsorted : sorted [] = [] := by simp [sorted]
  rw [hsorted] at hread
  refine list_insert hids rfl rfl (Query.selects_ofTenant_iff.2 rfl) (trips_ofTenant _ _ _ _ _) ?_
    hlist
  change Contact.ofRecord (draft.record tenant now) (s.tagNames draft.id) = _
  rw [htags]
  exact hread

/-- The contacts of two offices were added as of instants. -/
theorem dated_twoOffices : Store.twoOffices.ReachableBy Call.Dated :=
  .after (b := { policy := .lenient, store := .empty }) .empty (by decide +kernel)

end Store

/-! ### The round trip -/

namespace Book

/-- **A contact that is added is listed as it was written.**  Calls led to the store, a listing of a
whole organisation succeeds, and a contact is added to it with an id that is not there, any
attributes, its time of creation and no data.  Then it is added, and a listing on any day shows it
once and in one place: with its organisation, each attribute as it was given or missing, its time of
creation as that of the last update too, the time of the last activity, and neither tags nor a
status.  The contacts before and behind it are those that were listed before, in their order. -/
theorem list_added {b : Book} (hb : b.store.Reachable) {shown : Int} {tenant : String}
    {contacts : List Contact} (hlist : b.list shown tenant none none = .ok contacts)
    {draft : Draft} {created : Instant}
    (hid : ∀ r ∈ b.store.contacts, r.id ≠ draft.id) (hcreatedAt : draft.createdAt = some created)
    (hcreated : created.IsValid) (hactive : ∀ x ∈ draft.lastActivityAt, x.IsValid)
    (hdata : draft.additionalData = none) (now : Instant) (today : Int) :
    ∃ left before after, b.addContact tenant draft now = (.ok (), left) ∧
      contacts = before ++ after ∧
      left.list today tenant none none = .ok (before ++
        { id := draft.id, organizationId := tenant, attributes := draft.attributes,
          createdAt := created, updatedAt := created, lastActivityAt := draft.lastActivityAt,
          additionalData := none, status := none, tags := [] } :: after) ∧
      ∀ c ∈ before ++ after, c.id ≠ draft.id := by
  obtain ⟨hopen, hlist⟩ := read_eq_ok_iff.1 hlist
  have hnew : b.store.hasContact draft.id = false := by
    rw [Bool.eq_false_iff]
    intro hthere
    obtain ⟨r, hr, heq⟩ := Store.hasContact_iff.1 hthere
    exact hid r hr heq
  have hadded : b.store.addContact tenant draft now = .ok { b.store with
      contacts := b.store.contacts ++ [draft.record tenant now] } :=
    Store.addContact_eq_ok_iff.2 ⟨hnew, rfl⟩
  have hdraft : draft.IsReadable now :=
    { created := by rwa [hcreatedAt], active := hactive, data := by simp [hdata] }
  have hothers : ∀ c ∈ contacts, c.id ≠ draft.id := by
    intro c hc
    obtain ⟨records, hrun, hread⟩ := Store.list_eq_ok_iff.1 hlist
    obtain ⟨r, hr, hc⟩ := (mem_of_mapM_eq_ok hread c).1 hc
    rw [Store.id_of_ofRecord hc]
    exact hid r ((Query.mem_of_run_eq_ok hrun).1 hr).1
  obtain ⟨before, after, rfl, hlist'⟩ :=
    Store.list_addContact hb.integrity hdraft hadded hlist today
  refine ⟨{ b with store := { b.store with
    contacts := b.store.contacts ++ [draft.record tenant now] } }, before, after, ?_, rfl,
    read_eq_ok_iff.2 ⟨hopen, ?_⟩, hothers⟩
  · rw [addContact_eq, if_neg (Bool.eq_false_iff.1 hopen), if_neg (Bool.eq_false_iff.1 hnew)]
  · change Store.list _ b.engine today (.ofTenant tenant) = _
    simpa [Draft.contact, hcreatedAt, hdata, statusOf?] using hlist'

/-- A contact joins three others, with an attribute that is empty and others that are missing,
created in the last nanosecond of a leap day.  It is listed the day after. -/
theorem list_added_twoOffices :
    let b : Book := { policy := .lenient, store := .twoOffices }
    let created : Instant := ⟨2460370, 86399, 999999999⟩
    let draft : Draft :=
      { id := "a4", attributes := { firstName := some "Zoë", city := some "" },
        createdAt := some created, lastActivityAt := some ⟨2460370, 0, 5⟩ }
    b.store.Reachable ∧ (∀ r ∈ b.store.contacts, r.id ≠ "a4") ∧ created.IsValid ∧
      ∃ left before after, b.list newYear "acme" none none = .ok (before ++ after) ∧
        b.addContact "acme" draft ⟨newYear, 0, 0⟩ = (.ok (), left) ∧
        left.list (newYear + 1) "acme" none none = .ok (before ++
          { id := "a4", organizationId := "acme",
            attributes := { firstName := some "Zoë", city := some "" }, createdAt := created,
            updatedAt := created, lastActivityAt := some ⟨2460370, 0, 5⟩, additionalData := none,
            status := none, tags := [] } :: after) := by
  intro b created draft
  have hb : b.store.Reachable := Store.reachable_twoOffices
  have hid : ∀ r ∈ b.store.contacts, r.id ≠ "a4" := by decide +kernel
  have hcreated : created.IsValid := by decide +kernel
  have hactive : ∀ x ∈ draft.lastActivityAt, x.IsValid := by decide +kernel
  obtain ⟨contacts, hcontacts⟩ := Store.exists_list_ofTenant Store.dated_twoOffices b.engine newYear
    "acme"
  have hlist : b.list newYear "acme" none none = .ok contacts := read_eq_ok_iff.2 ⟨rfl, hcontacts⟩
  obtain ⟨left, before, after, hadded, rfl, hlisted, -⟩ :=
    list_added hb hlist hid rfl hcreated hactive rfl ⟨newYear, 0, 0⟩ (newYear + 1)
  exact ⟨hb, hid, hcreated, left, before, after, hlist, hadded, hlisted⟩

end Book

end ContactBook
