/-
**Tags stay within an organisation, if nobody tags the contacts of others.**

Tags belong to organisations, but neither a link nor a test of tags names one: a contact has the
tags that are linked to it, whoever has linked them.  So it hangs on the calls that make links
whether an organisation sees tags of its own only, and the call that tags a contact does not ask
whose contact it is.  This module proves that there is no other way across.  As long as no
organisation tags a contact of another, every link joins a contact and a tag of one organisation,
and no call that is made for one organisation changes what another one sees.  And it shows the way
across: one call puts a tag of one organisation on a contact of another, which then lists it.

Main definitions:

* `ContactBook.Call.tenant?` — the organisation that a call is made for;
* `ContactBook.Call.KeepsWithin`, `ContactBook.Book.AllWithin` — calls that tag no contact of
  another organisation;
* `ContactBook.Store.LinksWithin` — **every link stays within an organisation**.

Main results:

* `ContactBook.Store.LinksWithin.apply`, `ContactBook.Store.linksWithin_after` — such calls keep all
  links within an organisation, one call and many;
* `ContactBook.Store.slice_apply_of_ne` — and none of them changes what other organisations see;
* `ContactBook.Book.tags_within` — both laws together, for a book that begins empty.
-/

import ContactBook.Proofs.Isolation

set_option autoImplicit false

namespace ContactBook

/-! ### Calls of organisations -/

namespace Call

/-- The organisation that a call is made for, if it is made for one. -/
def tenant? : Call → Option String
  | addContact tenant _ _ | tagContact tenant _ _ | delete _ tenant _ => some tenant
  | addWorkflow _ _ | overwrite _ _ _ => none

/-- **A call that keeps within its organisation** does not tag a contact of another.  To put a text
into a column of a contact does not ask for organisations at all. -/
def KeepsWithin (s : Store) : Call → Prop
  | tagContact tenant contactId _ =>
    ∀ r ∈ s.contacts, r.id = contactId → r.organizationId = tenant
  | overwrite _ _ _ => False
  | addContact _ _ _ | addWorkflow _ _ | delete _ _ _ => True

instance (s : Store) : DecidablePred (KeepsWithin s)
  | tagContact tenant contactId _ =>
    inferInstanceAs (Decidable (∀ r ∈ s.contacts, r.id = contactId → r.organizationId = tenant))
  | overwrite _ _ _ => .isFalse id
  | addContact _ _ _ | addWorkflow _ _ | delete _ _ _ => .isTrue trivial

/-- A call changes nothing of a book but its store. -/
theorem apply_eq (b : Book) (c : Call) : c.apply b = { b with store := (c.apply b).store } := by
  have hwrite : ∀ {α : Type} (act : Store → Except Report α × Store),
      (b.write act).2 = { b with store := (b.write act).2.store } := by
    intro α act
    unfold Book.write
    split <;> rfl
  cases c with
  | delete today tenant request =>
      rw [apply, Book.delete_eq]
      split <;> rfl
  | _ => exact hwrite _

end Call

/-- Calls, one after the other, of which each keeps within its organisation when its turn comes. -/
def Book.AllWithin (b : Book) : List Call → Prop
  | [] => True
  | c :: calls => c.KeepsWithin b.store ∧ (c.apply b).AllWithin calls

instance Book.decidableAllWithin (b : Book) : ∀ calls, Decidable (b.AllWithin calls)
  | [] => .isTrue trivial
  | c :: calls =>
    have := decidableAllWithin (c.apply b) calls
    inferInstanceAs (Decidable (c.KeepsWithin b.store ∧ (c.apply b).AllWithin calls))

namespace Store

variable {s : Store} {tenant : String}

/-- **Every link stays within an organisation**: it joins a contact and a tag of one. -/
def LinksWithin (s : Store) : Prop :=
  ∀ l ∈ s.links, ∃ r ∈ s.contacts, ∃ t ∈ s.tags,
    r.id = l.contactId ∧ t.id = l.tagId ∧ r.organizationId = t.organizationId

/-! ### Links -/

namespace LinksWithin

theorem empty : LinksWithin .empty := fun _ h => absurd h List.not_mem_nil

/-- Links stay within an organisation when other rows join. -/
theorem append (h : s.LinksWithin) (contacts : List Record) (tags : List Tag)
    (workflowStates : List WorkflowState) :
    LinksWithin ⟨s.contacts ++ contacts, s.tags ++ tags, s.links, workflowStates⟩ := by
  intro l hl
  obtain ⟨r, hr, t, ht, hjoined⟩ := h l hl
  exact ⟨r, List.mem_append_left _ hr, t, List.mem_append_left _ ht, hjoined⟩

/-- Links stay within an organisation when one tags a contact of its own. -/
theorem tagContact (h : s.LinksWithin) {contactId : String} (name : String)
    (hown : ∀ r ∈ s.contacts, r.id = contactId → r.organizationId = tenant) :
    (s.tagContact tenant contactId name).2.LinksWithin := by
  have hmem := mem_ensureTag s tenant name
  have htenant := organizationId_ensureTag s tenant name
  obtain ⟨tags, htagged, -⟩ := ensureTag_eq s tenant name
  have hfound : (s.ensureTag tenant name).1.LinksWithin := by
    rw [htagged]
    simpa using h.append [] tags s.workflowStates
  rcases tagContact_cases s tenant name contactId with heq | ⟨hthere, -, heq⟩
  · rwa [heq]
  · obtain ⟨r, hr, hid⟩ := hasContact_iff.1 hthere
    rw [heq]
    intro l hl
    rcases List.mem_append.1 hl with hl | hl
    · exact hfound l hl
    · -- the new link joins the contact with the tag that was found or made
      rw [List.mem_singleton.1 hl]
      refine ⟨r, by rw [htagged]; exact hr, _, hmem, hid, rfl, ?_⟩
      rw [htenant, hown r hr hid]

/-- Links stay within an organisation when contacts go with their links. -/
theorem without (h : s.LinksWithin) (gone : List String) : (s.without gone).LinksWithin := by
  intro l hl
  obtain ⟨hl, hkept⟩ := List.mem_filter.1 hl
  obtain ⟨r, hr, t, ht, hid, hjoined⟩ := h l hl
  exact ⟨r, List.mem_filter.2 ⟨hr, by rwa [hid]⟩, t, ht, hid, hjoined⟩

/-- **A call that keeps within its organisation keeps all links within one.** -/
theorem apply {b : Book} (hids : (b.store.contacts.map (·.id)).Nodup) (h : b.store.LinksWithin)
    {c : Call} (hc : c.KeepsWithin b.store) : (c.apply b).store.LinksWithin := by
  have hleaves := c.leaves hids
  generalize (c.apply b).store = s' at hleaves
  cases hleaves with
  | nothing => exact h
  | @addContact tenant draft now s' hs =>
      obtain ⟨-, rfl⟩ := addContact_eq_ok_iff.1 hs
      simpa using h.append [draft.record tenant now] [] b.store.workflowStates
  | tagContact tenant contactId name => exact h.tagContact name hc
  | addWorkflow hs =>
      obtain ⟨-, -, rfl⟩ := addWorkflow_eq_ok_iff.1 hs
      simpa using h.append [] [] _
  | overwrite hs => exact hc.elim
  | delete today request hsettled => exact h.without _

end LinksWithin

/-- **And so do many calls.** -/
theorem linksWithin_after {b : Book} (hb : b.store.Integrity) (h : b.store.LinksWithin)
    {calls : List Call} (hcalls : b.AllWithin calls) : (b.after calls).store.LinksWithin := by
  induction calls generalizing b with
  | nil => exact h
  | cons c calls ih => exact ih (hb.apply c) (h.apply hb.contact_ids hcalls.1) hcalls.2

/-! ### What other organisations see -/

variable {other : String}

/-- A contact that joins is seen by its own organisation alone. -/
theorem slice_addContact (hne : other ≠ tenant) {r : Record} (hr : r.organizationId = tenant) :
    slice { s with contacts := s.contacts ++ [r] } other = s.slice other := by
  have hother : (r.organizationId == other) = false := by
    rw [hr]
    exact beq_eq_false_iff_ne.2 hne.symm
  have howns : owns { s with contacts := s.contacts ++ [r] } other = s.owns other := by
    funext id
    simp [owns, hother]
  simp only [slice, howns, List.filter_append, List.filter_cons, hother, Bool.false_eq_true,
    if_false, List.filter_nil, List.append_nil]
  rfl

/-- Tags that are linked to nothing are seen by nobody. -/
theorem slice_append_tags {tags : List Tag} (h : ∀ t ∈ tags, ∀ l ∈ s.links, t.id ≠ l.tagId) :
    slice { s with tags := s.tags ++ tags } other = s.slice other := by
  have hnames : linkedNames { s with tags := s.tags ++ tags } = s.linkedNames := by
    simp only [linkedNames, List.filter_append]
    refine List.flatMap_congr fun l hl => ?_
    have hnone : (tags.filter fun t => t.id == l.tagId) = [] := by
      refine List.filter_eq_nil_iff.2 fun t ht => ?_
      simpa using h t ht l hl
    rw [hnone, List.append_nil]
  simp only [slice, hnames]
  rfl

/-- A link that joins is seen by the organisation of its contact alone. -/
theorem slice_append_link {l : Link} (h : s.owns other l.contactId = false) :
    slice { s with links := s.links ++ [l] } other = s.slice other := by
  have hnames : (linkedNames { s with links := s.links ++ [l] }).filter
      (fun n => s.owns other n.1.contactId) =
      s.linkedNames.filter fun n => s.owns other n.1.contactId := by
    simp only [linkedNames, List.flatMap_append, List.filter_append, List.flatMap_singleton,
      List.filter_map, Function.comp_def, h, List.filter_false, List.map_nil, List.append_nil]
  have hlinks : (s.links ++ [l]).filter (fun l => s.owns other l.contactId) =
      s.links.filter fun l => s.owns other l.contactId := by
    simp [List.filter_append, h]
  have howns : owns { s with links := s.links ++ [l] } other = s.owns other := rfl
  simp only [slice, howns, hnames, hlinks]

/-- **A call that keeps within its organisation changes nothing that another one sees.** -/
theorem slice_apply_of_ne {b : Book} (hb : b.store.Integrity) {c : Call}
    (hc : c.KeepsWithin b.store) (hfor : c.tenant? = some tenant) (hne : other ≠ tenant) :
    (c.apply b).store.slice other = b.store.slice other := by
  have hleaves := c.leaves hb.contact_ids
  generalize (c.apply b).store = s' at hleaves
  cases hleaves with
  | nothing => rfl
  | addContact hs =>
      obtain rfl := Option.some.inj hfor
      obtain ⟨-, rfl⟩ := addContact_eq_ok_iff.1 hs
      exact slice_addContact hne rfl
  | tagContact organisation contactId name =>
      obtain rfl : organisation = tenant := Option.some.inj hfor
      -- the tag is new or it was there; in both cases no link refers to what is new
      obtain ⟨tags, htagged, hnew⟩ := ensureTag_eq b.store organisation name
      have hfound : (b.store.ensureTag organisation name).1.slice other = b.store.slice other := by
        rw [htagged]
        refine slice_append_tags fun t ht l hl heq => hnew t ht ?_
        obtain ⟨t', ht', hid⟩ := hb.link_tag l hl
        exact List.mem_map.2 ⟨t', ht', hid.trans heq.symm⟩
      rcases tagContact_cases b.store organisation name contactId with heq | ⟨-, -, heq⟩
      · rw [heq, hfound]
      · rw [heq, slice_append_link, hfound]
        rw [htagged, Bool.eq_false_iff]
        intro howned
        obtain ⟨r, hr, hother, hid⟩ := owns_iff.1 howned
        exact hne (hother.symm.trans (hc r hr hid))
  | addWorkflow hs => exact nomatch hfor
  | overwrite hs => exact nomatch hfor
  | delete today request hsettled =>
      obtain rfl := Option.some.inj hfor
      exact slice_without_of_ne hb.contact_ids hsettled hne

end Store

/-! ### Both laws -/

namespace Book

/-- **Tags stay within an organisation, if nobody tags the contacts of others.**  Let a book begin
empty, and let each of some calls keep within its organisation when its turn comes.  Then every link
joins a contact and a tag of one organisation.  And a further such call that is made for one
organisation changes neither the listings of another one on any day, with the tags that they show,
nor which conditions on tags its contacts satisfy. -/
theorem tags_within {b : Book} (hb : b.store = .empty) {calls : List Call}
    (hcalls : b.AllWithin calls) :
    let book := b.after calls
    book.store.LinksWithin ∧
      ∀ (c : Call) (tenant other : String), c.tenant? = some tenant →
        c.KeepsWithin book.store → other ≠ tenant →
        (∀ today filter term,
          (c.apply book).list today other filter term = book.list today other filter term) ∧
        ∀ r ∈ book.store.contacts, r.organizationId = other →
          r ∈ (c.apply book).store.contacts ∧
          (c.apply book).store.tagNames r.id = book.store.tagNames r.id ∧
          ∀ today condition, (c.apply book).store.Satisfies today r .tags condition ↔
            book.store.Satisfies today r .tags condition := by
  intro book
  have hempty : b.store.Reachable := by
    rw [hb]
    exact .empty
  have hbook : book.store.Integrity := (hempty.after fun _ _ => trivial).integrity
  refine ⟨Store.linksWithin_after hempty.integrity (hb ▸ .empty) hcalls, ?_⟩
  intro c tenant other hfor hc hne
  have hslice := Store.slice_apply_of_ne hbook hc hfor hne
  have hsame : ((c.apply book).store.slice other).Same (book.store.slice other) := by
    rw [hslice]
    exact ⟨.refl _, .refl _, .refl _, .refl _⟩
  refine ⟨?_, ?_⟩
  · intro today filter term
    have hlist : ∀ e : Engine, (c.apply book).store.list e today (.matching other filter term) =
        book.store.list e today (.matching other filter term) := fun e =>
      hsame.list_eq (Query.tenant_matching other filter term) (hbook.apply c).contact_ids
    rw [Call.apply_eq book c]
    simp only [list, read, hlist]
  · intro r hr hother
    have hown : book.store.owns other r.id = true := Store.owns_iff.2 ⟨r, hr, hother, rfl⟩
    have hnames : (c.apply book).store.tagNames r.id = book.store.tagNames r.id := by
      rw [Store.tagNames_of_owns hown, Store.tagNames_of_owns (hsame.owns_eq ▸ hown), hslice]
    refine ⟨(hsame.mem_contacts_iff hother).2 hr, hnames, fun today condition => ?_⟩
    -- a condition on tags asks for a name that is shown
    refine exists_congr fun name => and_congr_left fun _ => ?_
    rw [← Query.mem_tagNames_iff, ← Query.mem_tagNames_iff, hnames]

/-- Both offices tag a contact, and the first deletes its own; what is left stays within the second,
and another call of the first does not change what the second lists. -/
theorem tags_within_twoOffices :
    let midnight : Calendar.Instant := ⟨newYear, 0, 0⟩
    let b : Book := { policy := .lenient, store := .empty }
    let calls : List Call :=
      [.addContact "acme" { id := "a1" } midnight, .addContact "globex" { id := "g1" } midnight,
        .tagContact "acme" "a1" "vip", .tagContact "globex" "g1" "vip",
        .addWorkflow "a1" "onboarding", .delete newYear "acme" ⟨.explicit ["a1"], true⟩,
        .addContact "acme" { id := "a1" } midnight]
    let c : Call := .tagContact "acme" "a1" "new"
    let vip : Option Filter := some ⟨[⟨"tags", .equals, "vip"⟩], .all⟩
    b.AllWithin calls ∧ c.KeepsWithin (b.after calls).store ∧
      (b.after calls).store.links = [⟨"g1", 2⟩] ∧ (b.after calls).store.LinksWithin ∧
      (c.apply (b.after calls)).store.links = [⟨"g1", 2⟩, ⟨"a1", 3⟩] ∧
      (c.apply (b.after calls)).list newYear "globex" vip none =
        (b.after calls).list newYear "globex" vip none := by
  intro midnight b calls c vip
  have hcalls : b.AllWithin calls := by decide +kernel
  have hc : c.KeepsWithin (b.after calls).store := by decide +kernel
  obtain ⟨hlinks, hother⟩ := tags_within (b := b) rfl hcalls
  obtain ⟨hlist, -⟩ := hother c "acme" "globex" rfl hc (by decide)
  exact ⟨hcalls, hc, by decide +kernel, hlinks, by decide +kernel, hlist newYear vip none⟩

/-- **The way across**: an organisation tags a contact of another.  The call is carried out, the
link joins rows of two organisations, and a listing of the other one changes. -/
theorem tagContact_across :
    let midnight : Calendar.Instant := ⟨newYear, 0, 0⟩
    let b : Book := { policy := .lenient, store := .empty }
    let book := b.after [.addContact "globex" { id := "g1" } midnight]
    let c : Call := .tagContact "acme" "g1" "vip"
    let vip : Option Filter := some ⟨[⟨"tags", .equals, "vip"⟩], .all⟩
    (c.apply book).store.Reachable ∧ c.tenant? = some "acme" ∧
      (book.tagContact "acme" "g1" "vip").1.isOk = true ∧ ¬(c.apply book).store.LinksWithin ∧
      book.listIds newYear "globex" vip none = .ok [] ∧
      (c.apply book).listIds newYear "globex" vip none = .ok ["g1"] := by
  intro midnight b book c vip
  have hbook : book.store.Reachable :=
    .after (b := { policy := .lenient, store := .empty }) .empty fun _ _ => trivial
  have hacross : ¬(c.apply book).store.LinksWithin := by
    unfold Store.LinksWithin
    decide +kernel
  exact ⟨.call trivial hbook, rfl, by decide +kernel, hacross, by decide +kernel, by decide +kernel⟩

end Book

end ContactBook
