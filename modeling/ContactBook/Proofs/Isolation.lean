/-
**Organisations are isolated from each other.**

A store holds the rows of many organisations, and every request is made by one of them.  What that
one may see is its *slice*: its contacts, their workflow states and links, and the names of the tags
that are linked to them.  This module proves two things.  A deletion changes the slice of no other
organisation.  And answers come from the slice alone: in two stores in which an organisation has the
same slice it gets the same answers on one day, and its deletions leave the same slice, whatever
else the stores hold.  So it cannot even find out whether an id that it names exists elsewhere.

Slices are the same when they have the same rows, in whatever order; an answer shows no order but
that of listings.

Main definitions:

* `ContactBook.Store.slice` — **what an organisation can see** of a store;
* `ContactBook.Slice.Same` — two slices with the same rows.

Main results:

* `ContactBook.Slice.Same.run_eq` — a query is answered from the slice;
* `ContactBook.Slice.Same.delete` — so is a request to delete, and what it leaves of the slice
  depends on the slice alone;
* `ContactBook.Store.slice_without_of_ne` — it leaves the slices of others alone;
* `ContactBook.Book.isolated` — **organisations are isolated from each other**.
-/

import ContactBook.Proofs.Store.Reachable

set_option autoImplicit false

namespace ContactBook

/-! ### Slices -/

/-- The rows that an organisation can see: its contacts, their workflow states and links, and the
names of the tags that are linked to them, each with its link. -/
structure Slice where
  contacts : List Record
  workflowStates : List WorkflowState
  links : List Link
  tagNames : List (Link × String)

/-- The names of linked tags, each with its link. -/
def Store.linkedNames (s : Store) : List (Link × String) :=
  s.links.flatMap fun l => (s.tags.filter fun t => t.id == l.tagId).map fun t => (l, t.name)

/-- **What an organisation can see** of a store. -/
def Store.slice (s : Store) (tenant : String) : Slice where
  contacts := s.contacts.filter fun r => r.organizationId == tenant
  workflowStates := s.workflowStates.filter fun w => s.owns tenant w.contactId
  links := s.links.filter fun l => s.owns tenant l.contactId
  tagNames := s.linkedNames.filter fun p => s.owns tenant p.1.contactId

/-- Two slices with the same rows, in whatever order. -/
structure Slice.Same (a b : Slice) : Prop where
  contacts : a.contacts.Perm b.contacts
  workflowStates : a.workflowStates.Perm b.workflowStates
  links : a.links.Perm b.links
  tagNames : a.tagNames.Perm b.tagNames

/-- A slice without the contacts of some ids and without what refers to them. -/
def Slice.without (a : Slice) (ids : List String) : Slice where
  contacts := a.contacts.filter fun r => !ids.contains r.id
  workflowStates := a.workflowStates.filter fun w => !ids.contains w.contactId
  links := a.links.filter fun l => !ids.contains l.contactId
  tagNames := a.tagNames.filter fun p => !ids.contains p.1.contactId

theorem Slice.Same.without {a b : Slice} (h : a.Same b) (ids : List String) :
    (a.without ids).Same (b.without ids) :=
  ⟨h.contacts.filter _, h.workflowStates.filter _, h.links.filter _, h.tagNames.filter _⟩

namespace Store

variable {s : Store} {tenant : String}

/-- The names that come with links of some sort are those of the links of this sort. -/
theorem filter_linkedNames (p : Link → Bool) :
    (s.linkedNames.filter fun n => p n.1) = linkedNames { s with links := s.links.filter p } := by
  simp only [linkedNames, List.filter_flatMap, List.filter_map]
  induction s.links with
  | nil => rfl
  | cons l links ih =>
      rw [List.flatMap_cons, ih, List.filter_cons]
      cases hp : p l with
      | true => simp [Function.comp_def, hp]
      | false => simp [Function.comp_def, hp]

/-- The names of the tags of a contact are those that come with its links. -/
theorem tagNames_eq (id : String) :
    s.tagNames id = (s.linkedNames.filter fun n => n.1.contactId == id).map (·.2) := by
  rw [filter_linkedNames (fun l => l.contactId == id)]
  simp only [tagNames, linkedNames, List.map_flatMap, List.map_map, Function.comp_def]

/-- For a contact of the organisation these are all in its slice. -/
theorem tagNames_of_owns {id : String} (h : s.owns tenant id = true) :
    s.tagNames id =
      ((s.slice tenant).tagNames.filter fun n => n.1.contactId == id).map (·.2) := by
  rw [tagNames_eq, slice, List.filter_filter]
  refine congrArg _ (List.filter_congr fun n _ => ?_)
  by_cases hn : n.1.contactId = id <;> simp [hn, h]

/-- The rows of the contacts that are left are what is left of the rows of contacts. -/
theorem filter_owns_without {α : Type} (contactId : α → String) (rows : List α)
    (ids : List String) :
    (rows.filter fun a => !ids.contains (contactId a)).filter
        (fun a => (s.without ids).owns tenant (contactId a)) =
      (rows.filter fun a => s.owns tenant (contactId a)).filter
        fun a => !ids.contains (contactId a) := by
  rw [List.filter_filter, List.filter_filter]
  refine List.filter_congr fun a _ => ?_
  rw [owns_without, Bool.and_assoc, Bool.and_self, Bool.and_comm]

/-- To take contacts out of a store takes them out of every slice. -/
theorem slice_without (ids : List String) :
    (s.without ids).slice tenant = (s.slice tenant).without ids := by
  have hnames : (s.without ids).linkedNames =
      s.linkedNames.filter fun n => !ids.contains n.1.contactId :=
    (filter_linkedNames fun l => !ids.contains l.contactId).symm
  have hcontacts : ((s.without ids).contacts.filter fun r => r.organizationId == tenant) =
      (s.contacts.filter fun r => r.organizationId == tenant).filter fun r =>
        !ids.contains r.id := by
    simp only [without, List.filter_filter, Bool.and_comm]
  simp only [slice, Slice.without, Slice.mk.injEq, hnames, hcontacts, filter_owns_without]
  refine ⟨trivial, ?_, ?_, trivial⟩
  · exact filter_owns_without WorkflowState.contactId s.workflowStates ids
  · exact filter_owns_without Link.contactId s.links ids

/-- **A deletion leaves the slices of other organisations alone.** -/
theorem slice_without_of_ne (hs : (s.contacts.map (·.id)).Nodup) {ids : List String}
    (h : Deletion.Settled s tenant ids) {other : String} (hne : other ≠ tenant) :
    (s.without ids).slice other = s.slice other := by
  -- no id is that of two contacts, so none that is gone was the other organisation's
  have hkept : ∀ id, s.owns other id = true → (!ids.contains id) = true := by
    intro id hid
    rw [Bool.not_eq_true', Bool.eq_false_iff]
    intro hgone
    obtain ⟨r, hr, ht, rfl⟩ := owns_iff.1 hid
    exact hne (ht.symm.trans (h.organizationId_eq hs hr (List.contains_iff_mem.1 hgone)))
  rw [slice_without, Slice.without, slice, Slice.mk.injEq]
  refine ⟨?_, ?_, ?_, ?_⟩
  · refine List.filter_eq_self.2 fun r hr => hkept r.id ?_
    obtain ⟨hr, ht⟩ := List.mem_filter.1 hr
    exact owns_iff.2 ⟨r, hr, beq_iff_eq.1 ht, rfl⟩
  · exact List.filter_eq_self.2 fun w hw => hkept _ (List.mem_filter.1 hw).2
  · exact List.filter_eq_self.2 fun l hl => hkept _ (List.mem_filter.1 hl).2
  · exact List.filter_eq_self.2 fun n hn => hkept _ (List.mem_filter.1 hn).2

end Store

/-! ### Two stores with one slice -/

namespace Slice.Same

variable {e : Engine} {today : Int} {s s' : Store} {tenant : String}

section

variable (h : (s.slice tenant).Same (s'.slice tenant))
include h

theorem symm : (s'.slice tenant).Same (s.slice tenant) :=
  ⟨h.contacts.symm, h.workflowStates.symm, h.links.symm, h.tagNames.symm⟩

/-- The organisation has the same contacts. -/
theorem mem_contacts_iff {r : Record} (ht : r.organizationId = tenant) :
    r ∈ s.contacts ↔ r ∈ s'.contacts := by
  have hmem := h.contacts.mem_iff (a := r)
  simpa [Store.slice, ht] using hmem

/-- It has the same ids. -/
theorem owns_eq : s.owns tenant = s'.owns tenant := by
  funext id
  rw [Bool.eq_iff_iff, Store.owns_iff, Store.owns_iff]
  constructor
  · rintro ⟨r, hr, ht, hid⟩
    exact ⟨r, (h.mem_contacts_iff ht).1 hr, ht, hid⟩
  · rintro ⟨r, hr, ht, hid⟩
    exact ⟨r, (h.mem_contacts_iff ht).2 hr, ht, hid⟩

/-- The same of its contacts are in workflows. -/
theorem hasWorkflow_eq {id : String} (hid : s.owns tenant id = true) :
    s.hasWorkflow id = s'.hasWorkflow id := by
  have hid' : s'.owns tenant id = true := by rwa [← h.owns_eq]
  have hmem := fun w => h.workflowStates.mem_iff (a := w)
  simp only [Store.slice, List.mem_filter] at hmem
  rw [Bool.eq_iff_iff]
  simp only [Store.hasWorkflow, List.any_eq_true, beq_iff_eq]
  constructor
  · rintro ⟨w, hw, rfl⟩
    exact ⟨w, ((hmem w).1 ⟨hw, hid⟩).1, rfl⟩
  · rintro ⟨w, hw, rfl⟩
    exact ⟨w, ((hmem w).2 ⟨hw, hid'⟩).1, rfl⟩

/-- Its contacts have the same tags. -/
theorem tagNames_perm {id : String} (hid : s.owns tenant id = true) :
    (s.tagNames id).Perm (s'.tagNames id) := by
  have hid' : s'.owns tenant id = true := by rwa [← h.owns_eq]
  rw [Store.tagNames_of_owns hid, Store.tagNames_of_owns hid']
  exact (h.tagNames.filter _).map _

theorem tagNames_perm_of_mem {r : Record} (hr : r ∈ s.contacts) (ht : r.organizationId = tenant) :
    (s.tagNames r.id).Perm (s'.tagNames r.id) :=
  h.tagNames_perm (Store.owns_iff.2 ⟨r, hr, ht, rfl⟩)

/-! ### Queries -/

section

variable {q : Query} (hq : q.tenant = tenant)
include hq

/-- A query that fails in one store fails in the other. -/
theorem any_trips (htrips : s.contacts.any (q.trips e today s) = true) :
    s'.contacts.any (q.trips e today s') = true := by
  obtain ⟨r, hr, htrips⟩ := List.any_eq_true.1 htrips
  have ht := (Query.organizationId_of_trips htrips).trans hq
  refine List.any_eq_true.2 ⟨r, (h.mem_contacts_iff ht).1 hr, ?_⟩
  rwa [← Query.trips_of_perm (h.tagNames_perm_of_mem hr ht)]

/-- A query selects the same contacts. -/
theorem filter_selects_perm :
    (s.contacts.filter (q.selects today s)).Perm (s'.contacts.filter (q.selects today s')) := by
  -- whatever a query selects belongs to its organisation
  have hown : ∀ s : Store, s.contacts.filter (q.selects today s) =
      (s.slice tenant).contacts.filter (q.selects today s) := by
    intro s
    rw [Store.slice, List.filter_filter]
    refine List.filter_congr fun r _ => ?_
    rw [Bool.eq_iff_iff, Bool.and_eq_true, beq_iff_eq]
    exact ⟨fun hsel => ⟨hsel, (Query.organizationId_of_selects hsel).trans hq⟩, fun hsel => hsel.1⟩
  have hsel : (s.slice tenant).contacts.filter (q.selects today s) =
      (s.slice tenant).contacts.filter (q.selects today s') := by
    refine List.filter_congr fun r hr => ?_
    obtain ⟨hr, ht⟩ := List.mem_filter.1 hr
    exact Query.selects_of_perm (h.tagNames_perm_of_mem hr (beq_iff_eq.1 ht))
  rw [hown s, hown s', hsel]
  exact h.contacts.filter _

/-- **A query is answered from the slice.** -/
theorem run_eq (hs : (s.contacts.map (·.id)).Nodup) : q.run e today s = q.run e today s' := by
  have htrips : s.contacts.any (q.trips e today s) = s'.contacts.any (q.trips e today s') := by
    rw [Bool.eq_iff_iff]
    exact ⟨h.any_trips hq, h.symm.any_trips hq⟩
  have hperm : (s.contacts.filter (q.selects today s)).Perm
      (s'.contacts.filter (q.selects today s')) := h.filter_selects_perm hq
  have hsorted : (s.contacts.filter (q.selects today s)).mergeSort Query.listedBefore =
      (s'.contacts.filter (q.selects today s')).mergeSort Query.listedBefore := by
    refine Query.eq_of_perm_of_listed (Query.nodup_ids_listed ?_) (Query.pairwise_listed _)
      (Query.pairwise_listed _)
      ((List.mergeSort_perm _ _).trans (hperm.trans (List.mergeSort_perm _ _).symm))
    exact hs.sublist (List.filter_sublist.map _)
  simp only [Query.run, htrips, hsorted]

/-- So is a listing of ids. -/
theorem listIds_eq (hs : (s.contacts.map (·.id)).Nodup) :
    s.listIds e today q = s'.listIds e today q := by
  rw [Store.listIds, Store.listIds, h.run_eq hq hs]

/-- So is a listing of contacts, with their tags. -/
theorem list_eq (hs : (s.contacts.map (·.id)).Nodup) :
    s.list e today q = s'.list e today q := by
  have hrun : q.run e today s = q.run e today s' := h.run_eq hq hs
  simp only [Store.list, Store.tagNamesOf_tagText]
  rw [← hrun]
  cases hrecords : q.run e today s with
  | error report => rfl
  | ok records =>
      refine mapM_congr_left fun r hr => ?_
      obtain ⟨hr, hsel⟩ := (Query.mem_of_run_eq_ok hrecords).1 hr
      have hperm := h.tagNames_perm_of_mem hr ((Query.organizationId_of_selects hsel).trans hq)
      simp only [Contact.ofRecord, Store.sorted_eq_of_perm hperm]

end

/-! ### Requests to delete -/

/-- The same of settled ids are in workflows. -/
theorem filter_hasWorkflow_eq {ids : List String} (hids : Deletion.Settled s tenant ids) :
    ids.filter s.hasWorkflow = ids.filter s'.hasWorkflow :=
  List.filter_congr fun id hid => h.hasWorkflow_eq (hids.owned id hid)

theorem any_hasWorkflow_eq {ids : List String} (hids : Deletion.Settled s tenant ids) :
    ids.any s.hasWorkflow = ids.any s'.hasWorkflow := by
  rw [Bool.eq_iff_iff, List.any_eq_true, List.any_eq_true]
  refine exists_congr fun id => and_congr_right fun hid => ?_
  rw [h.hasWorkflow_eq (hids.owned id hid)]

/-- To take contacts out of both stores leaves one slice. -/
theorem slice_without (ids : List String) :
    ((s.without ids).slice tenant).Same ((s'.without ids).slice tenant) := by
  rw [Store.slice_without, Store.slice_without]
  exact h.without ids

/-- A request has the same targets. -/
theorem targets_eq (hs : (s.contacts.map (·.id)).Nodup) (request : Deletion.Request) :
    request.targets e today s tenant = request.targets e today s' tenant := by
  obtain ⟨selection, force⟩ := request
  cases selection with
  | explicit ids => simp only [Deletion.Request.targets, Deletion.namedTargets, h.owns_eq]
  | matching filter term =>
      simp only [Deletion.Request.targets,
        h.listIds_eq (Query.tenant_matching tenant filter term) hs]

/-- **A request to delete is answered from the slice**, and what it leaves of the slice depends on
the slice alone. -/
theorem delete (hs : (s.contacts.map (·.id)).Nodup) (hs' : (s'.contacts.map (·.id)).Nodup)
    (request : Deletion.Request) :
    (Deletion.run e today s tenant request).1 = (Deletion.run e today s' tenant request).1 ∧
      ((Deletion.run e today s tenant request).2.slice tenant).Same
        ((Deletion.run e today s' tenant request).2.slice tenant) := by
  have hsame : request.targets e today s tenant = request.targets e today s' tenant :=
    h.targets_eq hs request
  cases htargets : request.targets e today s tenant with
  | error report =>
      rw [htargets] at hsame
      rw [Deletion.run_of_report htargets, Deletion.run_of_report hsame.symm]
      exact ⟨rfl, h⟩
  | ok targets =>
      rw [htargets] at hsame
      have hsettled := Deletion.settled_targets hs htargets
      have hrefusal : request.refusal s targets = request.refusal s' targets := by
        rw [Deletion.Request.refusal, Deletion.Request.refusal, h.filter_hasWorkflow_eq hsettled]
      rw [Deletion.run_of_targets hs htargets, Deletion.run_of_targets hs' hsame.symm, hrefusal,
        ← h.any_hasWorkflow_eq hsettled]
      split
      · exact ⟨rfl, h⟩
      · split
        · exact ⟨rfl, h⟩
        · exact ⟨rfl, h.slice_without _⟩

end

end Slice.Same

/-! ### The law -/

namespace Book

/-- **Organisations are isolated from each other.**  Let no two contacts have one id.  Whatever
comes of a request to delete, it leaves the tags and the slices of other organisations as they were.
And in two books of one engine in which an organisation has the same slice, it gets the same
listings and the same answers to its requests on any day, and these leave the same slice. -/
theorem isolated {b : Book} (hb : (b.store.contacts.map (·.id)).Nodup) (today : Int)
    (tenant : String) (request : Deletion.Request) :
    ((b.delete today tenant request).2.store.tags = b.store.tags ∧
      ∀ other, other ≠ tenant →
        (b.delete today tenant request).2.store.slice other = b.store.slice other) ∧
    ∀ b' : Book, (b'.store.contacts.map (·.id)).Nodup → b'.engine = b.engine →
      b'.locked = b.locked → (b.store.slice tenant).Same (b'.store.slice tenant) →
      (∀ filter term, b.list today tenant filter term = b'.list today tenant filter term ∧
        b.listIds today tenant filter term = b'.listIds today tenant filter term) ∧
      (b.delete today tenant request).1 = (b'.delete today tenant request).1 ∧
      ((b.delete today tenant request).2.store.slice tenant).Same
        ((b'.delete today tenant request).2.store.slice tenant) := by
  refine ⟨?_, ?_⟩
  · rw [store_delete]
    split
    · exact ⟨rfl, fun _ _ => rfl⟩
    · obtain ⟨gone, hgone, hleft⟩ := Deletion.run_store hb b.engine today tenant request
      rw [hleft]
      exact ⟨rfl, fun other hne => Store.slice_without_of_ne hb hgone hne⟩
  · intro b' hb' hengine hlocked hslice
    refine ⟨?_, ?_⟩
    · intro filter term
      have hq := Query.tenant_matching tenant filter term
      simp only [list, listIds, read, hengine, hlocked, hslice.list_eq hq hb,
        hslice.listIds_eq hq hb, and_self]
    · rw [delete_eq, delete_eq, hengine, hlocked]
      split
      · exact ⟨rfl, hslice⟩
      · exact hslice.delete hb hb' request

end Book

/-- Two offices again.  The contacts of the first are the same, in another order; the second has
another contact, which is in a workflow. -/
def Store.otherOffices : Store :=
  let midnight : Calendar.Instant := ⟨newYear, 0, 0⟩
  let book : Book := { policy := .lenient, store := .empty }
  (book.after
    [.addContact "globex" { id := "g2", attributes := { firstName := some "Cy" } } midnight,
      .addContact "acme" { id := "a3", attributes := { firstName := some "Bo" } } midnight,
      .addContact "acme" { id := "a2", attributes := { lastName := some "Adams" } } midnight,
      .addContact "acme" { id := "a1", attributes := { firstName := some "Ada" } } midnight,
      .tagContact "acme" "a2" "vip", .tagContact "acme" "a1" "vip",
      .addWorkflow "a2" "onboarding", .addWorkflow "g2" "audit"]).store

/-- A request that names a contact which only one of the two stores has, and one which only the
other has, ends in both in the same way; and so does a search. -/
theorem Book.isolated_twoOffices :
    let book : Book := { policy := .lenient, store := Store.twoOffices }
    let book' : Book := { policy := .strict, store := .otherOffices }
    let request : Deletion.Request := ⟨.explicit ["g1", "a1", "g2"], false⟩
    (book.store.contacts.map (·.id)).Nodup ∧ (book'.store.contacts.map (·.id)).Nodup ∧
      (book.store.slice "acme").Same (book'.store.slice "acme") ∧
      (book.delete newYear "acme" request).1 = .ok ⟨1, 2⟩ ∧
      (book'.delete newYear "acme" request).1 = .ok ⟨1, 2⟩ ∧
      book.listIds newYear "acme" none (some "bo") = .ok ["a3"] ∧
      book'.listIds newYear "acme" none (some "bo") = .ok ["a3"] ∧
      (book.delete newYear "acme" request).2.store.slice "globex" = book.store.slice "globex" ∧
      ((book.delete newYear "acme" request).2.store.slice "acme").Same
        ((book'.delete newYear "acme" request).2.store.slice "acme") := by
  intro book book' request
  have hb : (book.store.contacts.map (·.id)).Nodup := by decide +kernel
  have hb' : (book'.store.contacts.map (·.id)).Nodup := by decide +kernel
  have hslice : (book.store.slice "acme").Same (book'.store.slice "acme") :=
    ⟨by decide +kernel, by decide +kernel, by decide +kernel, by decide +kernel⟩
  have houtcome : (book.delete newYear "acme" request).1 = .ok ⟨1, 2⟩ := by decide +kernel
  have hids : book.listIds newYear "acme" none (some "bo") = .ok ["a3"] := by decide +kernel
  obtain ⟨⟨-, hframe⟩, htwo⟩ := Book.isolated hb newYear "acme" request
  obtain ⟨hlist, hdelete, hleft⟩ := htwo book' hb' rfl rfl hslice
  exact ⟨hb, hb', hslice, houtcome, hdelete ▸ houtcome, hids, (hlist none (some "bo")).2 ▸ hids,
    hframe "globex" (by decide), hleft⟩

end ContactBook
