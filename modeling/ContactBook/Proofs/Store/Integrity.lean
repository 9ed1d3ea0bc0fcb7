/-
**The integrity of a store.**

A contact goes by its id in all organisations, a tag by its organisation and name, and a link by its
two ends; links and workflow states refer to rows that exist.  No table knows this by itself.  This
module states it for all tables together and proves that every write keeps it, whether the write is
carried out or refused, and that taking contacts out keeps it as well if what refers to them goes
with them.

Main definitions:

* `ContactBook.Store.Integrity` — the integrity of a store;
* `ContactBook.Store.without` — **a store without some contacts** and without what refers to them.

Main results:

* `ContactBook.Store.addContact_eq_ok_iff`, `addWorkflow_eq_ok_iff` — when a row is added, and what
  is left then;
* `ContactBook.Store.ensureTag_eq`, `tagContact_cases` — what is left when a contact is tagged;
* `ContactBook.Store.Integrity.addContact`, `tagContact`, `addWorkflow`, `overwrite`, `without` —
  **integrity is kept**.
-/

import ContactBook.Store.Write
import Mathlib.Data.List.Nodup

set_option autoImplicit false

namespace ContactBook

namespace Store

/-- **The integrity of a store**: rows have keys of their own, and what they refer to exists. -/
structure Integrity (s : Store) : Prop where
  /-- No two contacts have one id. -/
  contact_ids : (s.contacts.map (·.id)).Nodup
  /-- No two tags have one id. -/
  tag_ids : (s.tags.map (·.id)).Nodup
  /-- No organisation has two tags with one name. -/
  tag_names : (s.tags.map fun t => (t.organizationId, t.name)).Nodup
  /-- No tag is linked twice to a contact. -/
  links : s.links.Nodup
  /-- No two workflow states have one id. -/
  workflow_ids : (s.workflowStates.map (·.id)).Nodup
  /-- The contacts of links exist. -/
  link_contact : ∀ l ∈ s.links, ∃ r ∈ s.contacts, r.id = l.contactId
  /-- The tags of links exist. -/
  link_tag : ∀ l ∈ s.links, ∃ t ∈ s.tags, t.id = l.tagId
  /-- The contacts of workflow states exist. -/
  workflow_contact : ∀ w ∈ s.workflowStates, ∃ r ∈ s.contacts, r.id = w.contactId

/-- A store without the contacts of some ids, their links and their workflow states. -/
def without (s : Store) (ids : List String) : Store :=
  { s with
    contacts := s.contacts.filter fun r => !ids.contains r.id
    links := s.links.filter fun l => !ids.contains l.contactId
    workflowStates := s.workflowStates.filter fun w => !ids.contains w.contactId }

@[simp] theorem without_nil (s : Store) : s.without [] = s := by simp [without]

theorem hasContact_iff {s : Store} {id : String} :
    s.hasContact id = true ↔ ∃ r ∈ s.contacts, r.id = id := by
  simp [hasContact]

/-! ### New ids -/

theorem le_foldl_max (ids : List Nat) (start : Nat) :
    start ≤ ids.foldl max start ∧ ∀ n ∈ ids, n ≤ ids.foldl max start := by
  induction ids generalizing start with
  | nil => simp
  | cons m ids ih =>
      obtain ⟨hstart, hids⟩ := ih (max start m)
      rw [List.foldl_cons]
      refine ⟨by omega, ?_⟩
      intro n hn
      rcases List.mem_cons.1 hn with rfl | hn
      · omega
      · exact hids n hn

/-- The next id is new. -/
theorem nextId_not_mem (ids : List Nat) : nextId ids ∉ ids := by
  intro h
  have := (le_foldl_max ids 0).2 _ h
  simp only [nextId] at this
  omega

/-- A row with a new key joins rows whose keys are their own. -/
theorem nodup_map_append_singleton {α β : Type} {f : α → β} {as : List α} {a : α}
    (h : (as.map f).Nodup) (ha : f a ∉ as.map f) : ((as ++ [a]).map f).Nodup := by
  rw [List.map_append, List.map_singleton, List.nodup_append_comm]
  exact List.nodup_cons.2 ⟨ha, h⟩

/-! ### Writes that are carried out -/

section

variable {s : Store}

/-- A contact is added if no contact has its id. -/
theorem addContact_eq_ok_iff {tenant : String} {draft : Draft} {now : Calendar.Instant}
    {s' : Store} :
    s.addContact tenant draft now = .ok s' ↔ s.hasContact draft.id = false ∧
      s' = { s with contacts := s.contacts ++ [draft.record tenant now] } := by
  unfold addContact
  cases s.hasContact draft.id <;> simp [eq_comm]

/-- A contact takes part in a workflow if it exists. -/
theorem addWorkflow_eq_ok_iff {contactId workflow : String} {id : Nat} {s' : Store} :
    s.addWorkflow contactId workflow = .ok (id, s') ↔ s.hasContact contactId = true ∧
      id = nextId (s.workflowStates.map (·.id)) ∧
      s' = { s with workflowStates := s.workflowStates ++ [⟨id, contactId, workflow⟩] } := by
  unfold addWorkflow
  cases s.hasContact contactId with
  | false => simp
  | true =>
      simp only [if_true, Except.ok.injEq, Prod.mk.injEq, true_and]
      constructor
      · rintro ⟨rfl, rfl⟩
        exact ⟨rfl, rfl⟩
      · rintro ⟨rfl, rfl⟩
        exact ⟨rfl, rfl⟩

end

/-! ### Tags that are found or made -/

section

variable (s : Store) (tenant name : String)

/-- The tag that is found or made is there afterwards. -/
theorem mem_ensureTag : (s.ensureTag tenant name).2 ∈ (s.ensureTag tenant name).1.tags := by
  unfold ensureTag
  cases htag : s.tag? tenant name with
  | some t => exact List.mem_of_find?_eq_some htag
  | none => simp

/-- The tag that is found or made belongs to the organisation. -/
theorem organizationId_ensureTag : (s.ensureTag tenant name).2.organizationId = tenant := by
  unfold ensureTag
  cases htag : s.tag? tenant name with
  | none => rfl
  | some t =>
      have hfound := List.find?_some htag
      rw [Bool.and_eq_true, beq_iff_eq] at hfound
      exact hfound.1

/-- To find or make a tag changes no other table, and a tag that is made has an id of its own. -/
theorem ensureTag_eq :
    ∃ tags, (s.ensureTag tenant name).1 = { s with tags := s.tags ++ tags } ∧
      ∀ t ∈ tags, t.id ∉ s.tags.map (·.id) := by
  unfold ensureTag
  cases s.tag? tenant name with
  | some t => exact ⟨[], by simp, by simp⟩
  | none =>
      refine ⟨[_], rfl, ?_⟩
      intro t ht
      rw [List.mem_singleton.1 ht]
      exact nextId_not_mem _

/-- To tag a contact is to find or make the tag, and then to add a new link to a contact that
exists, or none. -/
theorem tagContact_cases (contactId : String) :
    let found := s.ensureTag tenant name
    (s.tagContact tenant contactId name).2 = found.1 ∨
      s.hasContact contactId = true ∧ ⟨contactId, found.2.id⟩ ∉ found.1.links ∧
        (s.tagContact tenant contactId name).2 =
          { found.1 with links := found.1.links ++ [⟨contactId, found.2.id⟩] } := by
  obtain ⟨tags, htagged, -⟩ := ensureTag_eq s tenant name
  have hcontact : (s.ensureTag tenant name).1.hasContact contactId = s.hasContact contactId := by
    rw [htagged]
    rfl
  intro found
  unfold tagContact
  rw [← hcontact]
  simp only
  split
  · exact .inl rfl
  next hnew =>
    split
    next hthere => exact .inr ⟨hthere, by simpa using hnew, rfl⟩
    next => exact .inl rfl

/-- To tag a contact leaves the contacts as they are. -/
theorem contacts_tagContact (contactId : String) :
    (s.tagContact tenant contactId name).2.contacts = s.contacts := by
  obtain ⟨tags, htagged, -⟩ := ensureTag_eq s tenant name
  rcases tagContact_cases s tenant name contactId with heq | ⟨-, -, heq⟩ <;> rw [heq, htagged]

end

/-! ### Integrity is kept -/

namespace Integrity

theorem empty : Integrity .empty := by constructor <;> simp [Store.empty]

variable {s : Store}

/-- Integrity is kept when a contact is added. -/
theorem addContact (h : s.Integrity) {tenant : String} {draft : Draft} {now : Calendar.Instant}
    {s' : Store} (hs : s.addContact tenant draft now = .ok s') : s'.Integrity := by
  obtain ⟨hnew, rfl⟩ := addContact_eq_ok_iff.1 hs
  refine { h with contact_ids := ?_, link_contact := ?_, workflow_contact := ?_ }
  · refine nodup_map_append_singleton h.contact_ids ?_
    intro hmem
    obtain ⟨r, hr, hid⟩ := List.mem_map.1 hmem
    exact Bool.eq_false_iff.1 hnew (hasContact_iff.2 ⟨r, hr, hid⟩)
  · intro l hl
    obtain ⟨r, hr, hid⟩ := h.link_contact l hl
    exact ⟨r, List.mem_append_left _ hr, hid⟩
  · intro w hw
    obtain ⟨r, hr, hid⟩ := h.workflow_contact w hw
    exact ⟨r, List.mem_append_left _ hr, hid⟩

/-- Integrity is kept when a tag is looked up, and made if need be. -/
theorem ensureTag (h : s.Integrity) (tenant name : String) :
    (s.ensureTag tenant name).1.Integrity := by
  unfold Store.ensureTag
  cases htag : s.tag? tenant name with
  | some t => exact h
  | none =>
      refine { h with tag_ids := ?_, tag_names := ?_, link_tag := ?_ }
      · exact nodup_map_append_singleton h.tag_ids (nextId_not_mem _)
      · -- the tag is made because none has its name
        refine nodup_map_append_singleton h.tag_names ?_
        intro hmem
        obtain ⟨t, ht, hkey⟩ := List.mem_map.1 hmem
        have := List.find?_eq_none.1 htag t ht
        simp_all
      · intro l hl
        obtain ⟨t, ht, hid⟩ := h.link_tag l hl
        exact ⟨t, List.mem_append_left _ ht, hid⟩

/-- Integrity is kept when a tag is put on a contact, and also when that is refused. -/
theorem tagContact (h : s.Integrity) (tenant contactId name : String) :
    (s.tagContact tenant contactId name).2.Integrity := by
  have htagged := h.ensureTag tenant name
  have hmem := mem_ensureTag s tenant name
  obtain ⟨tags, hfound, -⟩ := ensureTag_eq s tenant name
  rcases tagContact_cases s tenant name contactId with heq | ⟨hthere, hnew, heq⟩
  · rwa [heq]
  · obtain ⟨r, hr, hid⟩ := hasContact_iff.1 hthere
    rw [heq]
    refine { htagged with links := ?_, link_contact := ?_, link_tag := ?_ }
    · rw [List.nodup_append_comm]
      exact List.nodup_cons.2 ⟨hnew, htagged.links⟩
    · intro l hl
      rcases List.mem_append.1 hl with hl | hl
      · exact htagged.link_contact l hl
      · exact ⟨r, by rw [hfound]; exact hr, by rw [List.mem_singleton.1 hl, hid]⟩
    · intro l hl
      rcases List.mem_append.1 hl with hl | hl
      · exact htagged.link_tag l hl
      · exact ⟨_, hmem, by rw [List.mem_singleton.1 hl]⟩

/-- Integrity is kept when a contact takes part in a workflow. -/
theorem addWorkflow (h : s.Integrity) {contactId workflow : String} {id : Nat} {s' : Store}
    (hs : s.addWorkflow contactId workflow = .ok (id, s')) : s'.Integrity := by
  obtain ⟨hthere, rfl, rfl⟩ := addWorkflow_eq_ok_iff.1 hs
  obtain ⟨r, hr, hid⟩ := hasContact_iff.1 hthere
  refine { h with workflow_ids := ?_, workflow_contact := ?_ }
  · exact nodup_map_append_singleton h.workflow_ids (nextId_not_mem _)
  · intro w hw
    rcases List.mem_append.1 hw with hw | hw
    · exact h.workflow_contact w hw
    · exact ⟨r, hr, by rw [List.mem_singleton.1 hw, hid]⟩

/-- One contact changes in place, and its id only if no contact has the new one and nothing refers
to the old one. -/
theorem replace (h : s.Integrity) {id : String} {changed : Record}
    (hnew : changed.id ≠ id → s.hasContact changed.id = false)
    (hold : changed.id ≠ id → s.isReferred id = false) :
    Integrity { s with contacts := s.contacts.map fun r => if r.id == id then changed else r } := by
  -- whatever referred to a contact refers to the row that stands in its place
  have hthere : ∀ contactId, (contactId = id → changed.id = id) →
      (∃ r ∈ s.contacts, r.id = contactId) →
      ∃ r ∈ s.contacts.map (fun r => if r.id == id then changed else r), r.id = contactId := by
    rintro contactId hsame ⟨r, hr, rfl⟩
    refine ⟨_, List.mem_map_of_mem hr, ?_⟩
    by_cases hid : r.id = id
    · simp [hid, hsame hid]
    · simp [hid]
  have hids : (s.contacts.map fun r => if r.id == id then changed else r).map (·.id) =
      (s.contacts.map (·.id)).map fun x => if x = id then changed.id else x := by
    rw [List.map_map, List.map_map]
    refine List.map_congr_left fun r _ => ?_
    by_cases hid : r.id = id <;> simp [hid]
  -- no other contact has the new id
  have hother : ∀ r ∈ s.contacts, r.id ≠ id → changed.id ≠ r.id := by
    intro r hr hne heq
    have hcid : changed.id ≠ id := fun hc => hne (heq ▸ hc)
    have hthere : s.hasContact changed.id = true := hasContact_iff.2 ⟨r, hr, heq.symm⟩
    rw [hnew hcid] at hthere
    exact Bool.false_ne_true hthere
  refine { h with contact_ids := ?_, link_contact := ?_, workflow_contact := ?_ }
  · rw [hids]
    refine h.contact_ids.map_on ?_
    intro x hx y hy hxy
    obtain ⟨r, hr, rfl⟩ := List.mem_map.1 hx
    obtain ⟨r', hr', rfl⟩ := List.mem_map.1 hy
    by_cases hrid : r.id = id <;> by_cases hrid' : r'.id = id
    · rw [hrid, hrid']
    · rw [if_pos hrid, if_neg hrid'] at hxy
      exact absurd hxy (hother r' hr' hrid')
    · rw [if_neg hrid, if_pos hrid'] at hxy
      exact absurd hxy.symm (hother r hr hrid)
    · rwa [if_neg hrid, if_neg hrid'] at hxy
  · -- a contact that something refers to keeps its id
    intro l hl
    refine hthere l.contactId (fun hid => ?_) (h.link_contact l hl)
    by_contra hne
    have := hold hne
    simp only [isReferred, Bool.or_eq_false_iff, List.any_eq_false] at this
    exact this.1 l hl (by simpa using hid)
  · intro w hw
    refine hthere w.contactId (fun hid => ?_) (h.workflow_contact w hw)
    by_contra hne
    have := hold hne
    simp only [isReferred, hasWorkflow, Bool.or_eq_false_iff, List.any_eq_false] at this
    exact this.2 w hw (by simpa using hid)

/-- Integrity is kept when the text in a column of a contact is changed. -/
theorem overwrite (h : s.Integrity) {id : String} {column : Column} {text : Option String}
    {count : Nat} {s' : Store} (hs : s.overwrite id column text = .ok (count, s')) :
    s'.Integrity := by
  unfold Store.overwrite at hs
  split at hs
  · obtain ⟨-, rfl⟩ := Prod.mk.inj (Except.ok.inj hs)
    exact h
  · split at hs
    · exact nomatch hs
    next changed _ =>
      split at hs
      · exact nomatch hs
      next hnew =>
        split at hs
        · exact nomatch hs
        next hold =>
          obtain ⟨-, rfl⟩ := Prod.mk.inj (Except.ok.inj hs)
          exact h.replace (fun hne => by simpa [hne] using hnew) fun hne => by
            simpa [hne] using hold

/-- Integrity is kept when contacts go with all that refers to them. -/
theorem without (h : s.Integrity) (ids : List String) : (s.without ids).Integrity where
  contact_ids := h.contact_ids.sublist (List.filter_sublist.map _)
  tag_ids := h.tag_ids
  tag_names := h.tag_names
  links := h.links.filter _
  workflow_ids := h.workflow_ids.sublist (List.filter_sublist.map _)
  link_contact := by
    intro l hl
    obtain ⟨hl, hkept⟩ := List.mem_filter.1 hl
    obtain ⟨r, hr, hid⟩ := h.link_contact l hl
    exact ⟨r, List.mem_filter.2 ⟨hr, by rwa [hid]⟩, hid⟩
  link_tag := fun l hl => h.link_tag l (List.mem_of_mem_filter hl)
  workflow_contact := by
    intro w hw
    obtain ⟨hw, hkept⟩ := List.mem_filter.1 hw
    obtain ⟨r, hr, hid⟩ := h.workflow_contact w hw
    exact ⟨r, List.mem_filter.2 ⟨hr, by rwa [hid]⟩, hid⟩

end Integrity

end Store

end ContactBook
