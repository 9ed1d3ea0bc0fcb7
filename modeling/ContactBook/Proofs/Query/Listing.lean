/-
**What a listing shows, and in what order.**

The store puts the contacts of an answer in order by the text of their time of creation, and it
hands over the names of their tags as one JSON text.  For contacts that were added as of instants
in the years of four digits neither can be seen from outside: the latest instant comes first, and
the tags are the names of the linked tags.  A contact comes once however many of its tags pass a
filter, because a test of tags asks only whether some tag passes; and a listing of ids shows the
same contacts in the same order, also on another day if the filter does not ask for the present one.

Main definitions:

* `ContactBook.Contact.ListedBefore` — the order of listings, by instants and bytes;
* `ContactBook.Store.LinkedNames` — the names of the tags that are linked to a contact, link by
  link.

Main results:

* `ContactBook.Store.linkedNames_tagNames`, `pairwise_encode_sorted` — the tags of a listed contact;
* `ContactBook.Store.listedBefore_of_shows` — the order of rows is that of the instants;
* `ContactBook.Store.listing_newest_first` — **listings show each contact that is meant once, in
  order, with its tags**.
-/

import ContactBook.Proofs.Store.Dated

set_option autoImplicit false

namespace ContactBook

open Text.Utf8 (encode encode_le_encode_iff encode_lt_encode_iff)

/-- **The order of listings.**  A contact comes before another if it was created at a later instant,
or at the same one and the bytes of its id come first. -/
def Contact.ListedBefore (a b : Contact) : Prop :=
  b.createdAt.Before a.createdAt ∨
    a.createdAt = b.createdAt ∧ encode a.id.toList < encode b.id.toList

namespace Store

variable {s : Store}

/-! ### Tags -/

/-- **The names of the tags that are linked to a contact**, one for each link. -/
def LinkedNames (s : Store) (contactId : String) (names : List String) : Prop :=
  List.Forall₂ (fun l name => ∃ t ∈ s.tags, t.id = l.tagId ∧ t.name = name)
    (s.links.filter fun l => l.contactId == contactId) names

/-- A link leads to one tag. -/
theorem exists_filter_tags_eq (h : s.Integrity) {l : Link} (hl : l ∈ s.links) :
    ∃ t ∈ s.tags, t.id = l.tagId ∧ (s.tags.filter fun t => t.id == l.tagId) = [t] := by
  obtain ⟨t, ht, hid⟩ := h.link_tag l hl
  refine ⟨t, ht, hid, List.perm_singleton.1 ?_⟩
  refine (List.perm_ext_iff_of_nodup (h.tag_ids.of_map.filter _) (List.nodup_singleton t)).2 ?_
  intro t'
  rw [List.mem_filter, List.mem_singleton, beq_iff_eq]
  constructor
  · rintro ⟨ht', hid'⟩
    exact List.inj_on_of_nodup_map h.tag_ids ht' ht (hid'.trans hid.symm)
  · rintro rfl
    exact ⟨ht, hid⟩

theorem linkedNames_tagNames (h : s.Integrity) (contactId : String) :
    s.LinkedNames contactId (s.tagNames contactId) := by
  have hlinks : ∀ l ∈ s.links.filter fun l => l.contactId == contactId, l ∈ s.links :=
    fun l hl => (List.mem_filter.1 hl).1
  unfold LinkedNames tagNames
  generalize (s.links.filter fun l => l.contactId == contactId) = links at hlinks ⊢
  induction links with
  | nil => exact .nil
  | cons l links ih =>
      obtain ⟨t, ht, hid, hone⟩ := exists_filter_tags_eq h (hlinks l List.mem_cons_self)
      rw [List.flatMap_cons, hone]
      exact .cons ⟨t, ht, hid, rfl⟩ (ih fun l hl => hlinks l (List.mem_cons_of_mem _ hl))

/-- The bytes of sorted texts ascend. -/
theorem pairwise_encode_sorted (texts : List String) :
    (sorted texts).Pairwise fun a b => encode a.toList ≤ encode b.toList := by
  refine (pairwise_sorted texts).imp fun h => encode_le_encode_iff.2 fun hlt => ?_
  exact not_lt_of_ge h (String.lt_iff_toList_lt.2 hlt)

/-! ### Order -/

/-- Contacts of dated rows come in the order of the rows. -/
theorem listedBefore_of_shows {r r' : Record} {c c' : Contact} {names names' : List String}
    (hc : c.Shows r names) (hc' : c'.Shows r' names') (hid : r.id ≠ r'.id)
    (hyear : c.createdAt.InFourDigits) (hyear' : c'.createdAt.InFourDigits)
    (h : Query.listedBefore r r' = true) : c.ListedBefore c' := by
  obtain ⟨hvalid, hstored⟩ := hc.createdAt
  obtain ⟨hvalid', hstored'⟩ := hc'.createdAt
  unfold Query.listedBefore at h
  split at h
  next hsame =>
    have hinstant : c.createdAt = c'.createdAt :=
      Calendar.Instant.eq_of_stored_eq hvalid hvalid' (hstored.trans (hsame.trans hstored'.symm))
    have hlt : r.id < r'.id := lt_of_le_of_ne (of_decide_eq_true h) hid
    refine .inr ⟨hinstant, encode_lt_encode_iff.2 ?_⟩
    rw [hc.id, hc'.id]
    exact String.lt_iff_toList_lt.1 hlt
  next =>
    refine .inl ((Calendar.Instant.stored_lt_iff hvalid' hvalid hyear' hyear).1 ?_)
    rw [hstored, hstored']
    exact of_decide_eq_true h

/-- **A listing shows each contact that is meant once, in order, with its tags.**  The store is one
that calls led to which add contacts as of instants in the years of four digits, tag them, let them
take part in workflows and delete them; and the query runs.  Then so does the listing.  It shows
just the contacts that are meant, no id twice, the latest first and those of one instant by the
bytes of their ids.  The tags of each are the names of the tags that are linked to it, one for each
link, by their bytes.  And a listing of ids shows the same ids, on the same day, or on any day if
the filter does not ask for the present one. -/
theorem listing_newest_first (hs : s.ReachableBy Call.Dated) {e : Engine} {today : Int}
    {tenant : String} {filter : Option Filter} {term : Option String} {records : List Record}
    (hrun : (Query.matching tenant filter term).run e today s = .ok records) :
    ∃ contacts, s.list e today (Query.matching tenant filter term) = .ok contacts ∧
      (∀ again, today = again ∨ filter.any Filter.asksToday = false →
        s.listIds e again (Query.matching tenant filter term) = .ok (contacts.map (·.id))) ∧
      contacts.Pairwise Contact.ListedBefore ∧
      (contacts.map (·.id)).Nodup ∧
      (∀ r ∈ s.contacts, s.Means today tenant filter term r →
        ∃ c ∈ contacts, c.Shows r (s.tagNames r.id)) ∧
      (∀ c ∈ contacts, ∃ r ∈ s.contacts,
        s.Means today tenant filter term r ∧ c.Shows r (s.tagNames r.id)) ∧
      ∀ c ∈ contacts,
        (∃ names, s.LinkedNames c.id names ∧ c.tags.Perm names) ∧
          c.tags.Pairwise fun a b => encode a.toList ≤ encode b.toList := by
  have hintegrity := hs.integrity
  have hmem : ∀ r, r ∈ records ↔ r ∈ s.contacts ∧ s.Means today tenant filter term r := by
    intro r
    rw [Query.mem_of_run_eq_ok hrun, Query.selects_matching_iff]
  have hread : ∀ r ∈ records, ∃ c, Contact.ofRecord r (s.tagNames r.id) = .ok c ∧
      c.Shows r (s.tagNames r.id) ∧ c.createdAt.InFourDigits :=
    fun r hr => (hs.dated r ((hmem r).1 hr).1).exists_ofRecord _
  obtain ⟨contacts, hcontacts⟩ := exists_mapM_eq_ok fun r hr =>
    (hread r hr).imp fun _ h => h.1
  have hlist : s.list e today (Query.matching tenant filter term) = .ok contacts :=
    list_eq_ok_iff.2 ⟨records, hrun, hcontacts⟩
  have hids := listIds_of_list hlist
  have hshown : ∀ {r c}, r ∈ records → Contact.ofRecord r (s.tagNames r.id) = .ok c →
      c.Shows r (s.tagNames r.id) ∧ c.createdAt.InFourDigits := by
    intro r c hr hc
    obtain ⟨c', hc', hshows⟩ := hread r hr
    obtain rfl := Except.ok.inj (hc'.symm.trans hc)
    exact hshows
  have hmemlist := mem_of_mapM_eq_ok hcontacts
  refine ⟨contacts, hlist, fun again hsame => ?_, ?_, ?_, ?_, ?_, ?_⟩
  · have hsame : s.SameOn filter today again := (sameOn_iff_of_dated hs.dated).2 hsame
    rwa [listIds, Query.run_matching_eq_of_sameOn hsame, ← listIds] at hids
  · -- rows have ids of their own, and so the order is strict
    have hdistinct : records.Pairwise fun a b => a.id ≠ b.id :=
      List.pairwise_map.1 (Query.nodup_ids_of_run_eq_ok hintegrity.contact_ids hrun)
    have hrows := List.Pairwise.and_mem.1 ((Query.pairwise_of_run_eq_ok hrun).and hdistinct)
    refine pairwise_of_mapM_eq_ok hcontacts hrows fun hboth hc hc' => ?_
    obtain ⟨hr, hr', hbefore, hid⟩ := hboth
    obtain ⟨hshows, hyear⟩ := hshown hr hc
    obtain ⟨hshows', hyear'⟩ := hshown hr' hc'
    exact listedBefore_of_shows hshows hshows' hid hyear hyear' hbefore
  · obtain ⟨records', hrun', heq⟩ := listIds_eq_ok_iff.1 hids
    rw [← heq]
    exact Query.nodup_ids_of_run_eq_ok hintegrity.contact_ids hrun'
  · intro r hr hmeans
    have hr := (hmem r).2 ⟨hr, hmeans⟩
    obtain ⟨c, hc, hshows, -⟩ := hread r hr
    exact ⟨c, (hmemlist c).2 ⟨r, hr, hc⟩, hshows⟩
  · intro c hc
    obtain ⟨r, hr, hc⟩ := (hmemlist c).1 hc
    exact ⟨r, ((hmem r).1 hr).1, ((hmem r).1 hr).2, (hshown hr hc).1⟩
  · intro c hc
    obtain ⟨r, hr, hc⟩ := (hmemlist c).1 hc
    have hshows := (hshown hr hc).1
    rw [hshows.id, hshows.tags]
    exact ⟨⟨_, linkedNames_tagNames hintegrity r.id, sorted_perm _⟩, pairwise_encode_sorted _⟩

/-- The second contact was created half a second after the first, and both have tags that pass the
filter, the second one two.  The ids are listed on the day after as well. -/
theorem listing_newest_first_lead :
    let first : Draft := { id := "a1" }
    let second : Draft := { id := "a2", createdAt := some ⟨newYear, 0, 500000000⟩ }
    let calls : List Call := [.addContact "acme" first ⟨newYear, 0, 0⟩,
      .addContact "acme" second ⟨newYear, 0, 0⟩, .tagContact "acme" "a2" "lead",
      .tagContact "acme" "a2" "\"e\"", .tagContact "acme" "a1" "lead",
      .addWorkflow "a1" "onboarding"]
    let s := (Book.after { policy := .strict, store := .empty } calls).store
    let query := Query.matching "acme" (some ⟨[⟨"tags", .contains, "E"⟩], .all⟩) none
    s.ReachableBy Call.Dated ∧ (∃ records, query.run .builtIn newYear s = .ok records) ∧
      ∃ contacts, s.list .builtIn newYear query = .ok contacts ∧
        s.listIds .builtIn (newYear + 1) query = .ok ["a2", "a1"] ∧
        contacts.map (·.tags) = [["\"e\"", "lead"], ["lead"]] := by
  intro first second calls s query
  have hs : s.ReachableBy Call.Dated :=
    .after (b := { policy := .strict, store := .empty }) .empty (by decide +kernel)
  have hrun : query.run .builtIn newYear s = .ok [second.record "acme" ⟨newYear, 0, 0⟩,
      first.record "acme" ⟨newYear, 0, 0⟩] := by
    have hasked : Engine.builtIn.refusal? query = none := by decide +kernel
    have htrips : ¬ s.contacts.any (query.trips .builtIn newYear s) = true := by decide +kernel
    have hselected : s.contacts.filter (query.selects newYear s) =
        [first.record "acme" ⟨newYear, 0, 0⟩, second.record "acme" ⟨newYear, 0, 0⟩] := by
      decide +kernel
    -- the later one comes first
    have hordered : [second.record "acme" ⟨newYear, 0, 0⟩,
        first.record "acme" ⟨newYear, 0, 0⟩].Pairwise fun a b => Query.listedBefore a b = true := by
      decide +kernel
    have hsorted := Query.eq_of_perm_of_listed (by decide +kernel) hordered
      (Query.pairwise_listed _) ((List.Perm.swap _ _ []).trans (List.mergeSort_perm _ _).symm)
    simp only [Query.run, hasked, if_neg htrips, hselected, ← hsorted]
  obtain ⟨contacts, hlist, hids, -, -, -, hshows, -⟩ := listing_newest_first hs hrun
  have hlisted : s.listIds .builtIn newYear query = .ok ["a2", "a1"] :=
    listIds_eq_ok_iff.2 ⟨_, hrun, rfl⟩
  have hshown : ["a2", "a1"] = contacts.map (·.id) :=
    Except.ok.inj (hlisted.symm.trans (hids newYear (.inl rfl)))
  have htags : contacts.map (·.tags) =
      (contacts.map (·.id)).map fun id => sorted (s.tagNames id) := by
    rw [List.map_map]
    refine List.map_congr_left fun c hc => ?_
    obtain ⟨r, -, -, hshows⟩ := hshows c hc
    rw [Function.comp_apply, hshows.id, hshows.tags]
  have hnames : ["a2", "a1"].map s.tagNames = [["lead", "\"e\""], ["lead"]] := by decide +kernel
  have hboth : sorted ["lead", "\"e\""] = ["\"e\"", "lead"] :=
    (sorted_eq_of_perm (List.Perm.swap _ _ [])).trans
      (List.mergeSort_of_pairwise (by decide +kernel))
  refine ⟨hs, ⟨_, hrun⟩, contacts, hlist, ?_, ?_⟩
  · rw [hshown]
    exact hids (newYear + 1) (.inr (by decide +kernel))
  rw [htags, ← hshown]
  change (["a2", "a1"].map s.tagNames).map sorted = _
  rw [hnames, List.map_cons, hboth]
  simp [sorted]

end Store

end ContactBook
