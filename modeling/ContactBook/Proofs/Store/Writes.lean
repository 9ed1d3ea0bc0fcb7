/-
**What a write leaves behind.**

A contact is added, or takes part in a workflow, by one statement: either the row is there
afterwards or nothing has changed.  To tag a contact takes three, and no transaction holds them
together.  The tag is found or made first, and only the last statement finds out whether the contact
exists; so a call that is refused can leave a tag behind that is on no contact.  This module says
for each of the three writes what it leaves, down to the row.

Main definition:

* `ContactBook.including` — rows with one of them, which is added if it is missing.

Main results:

* `ContactBook.Store.ensureTag_eq_including`, `eq_ensureTag_of_mem` — the tag that is found or made
  is the only one with its name;
* `ContactBook.Book.addContact_eq`, `addWorkflow_eq`, `tagContact_eq` — **the three writes**;
* `ContactBook.Book.left_by_writes` — **what they leave** when they succeed and when they fail;
* `ContactBook.Book.tag_left_by_refused` — a tag that a refused call leaves behind.
-/

import ContactBook.Proofs.Store.Reachable

set_option autoImplicit false

namespace ContactBook

open Calendar (Instant)

/-! ### Rows that are added if they are missing -/

/-- Rows with one of them, which is added at the end if it is missing. -/
def including {α : Type} [DecidableEq α] (rows : List α) (row : α) : List α :=
  if row ∈ rows then rows else rows ++ [row]

section

variable {α : Type} [DecidableEq α] {rows : List α} {row : α}

theorem including_of_mem (h : row ∈ rows) : including rows row = rows := if_pos h

theorem including_of_not_mem (h : row ∉ rows) : including rows row = rows ++ [row] := if_neg h

theorem mem_including (rows : List α) (row : α) : row ∈ including rows row := by
  by_cases h : row ∈ rows
  · rwa [including_of_mem h]
  · rw [including_of_not_mem h]
    exact List.mem_append_right _ List.mem_cons_self

end

namespace Store

variable {s : Store}

/-! ### Tags -/

/-- The tag that is found or made has the name that it was looked up by. -/
theorem name_ensureTag (s : Store) (tenant name : String) :
    (s.ensureTag tenant name).2.name = name := by
  unfold ensureTag
  cases htag : s.tag? tenant name with
  | none => rfl
  | some t =>
      have hfound := List.find?_some htag
      rw [Bool.and_eq_true, beq_iff_eq, beq_iff_eq] at hfound
      exact hfound.2

/-- To find or make a tag adds it if it is missing and does nothing else. -/
theorem ensureTag_eq_including (s : Store) (tenant name : String) :
    (s.ensureTag tenant name).1 =
      { s with tags := including s.tags (s.ensureTag tenant name).2 } := by
  have hnew := nextId_not_mem (s.tags.map (·.id))
  unfold ensureTag
  cases htag : s.tag? tenant name with
  | some t => rw [including_of_mem (List.mem_of_find?_eq_some htag)]
  | none =>
      rw [including_of_not_mem]
      intro hmem
      exact hnew (List.mem_map_of_mem hmem)

/-- A tag that is made has an id of its own. -/
theorem mem_or_id_not_mem_ensureTag (s : Store) (tenant name : String) :
    (s.ensureTag tenant name).2 ∈ s.tags ∨
      (s.ensureTag tenant name).2.id ∉ s.tags.map (·.id) := by
  unfold ensureTag
  cases htag : s.tag? tenant name with
  | some t => exact .inl (List.mem_of_find?_eq_some htag)
  | none => exact .inr (nextId_not_mem _)

/-- An organisation has no other tag with the name. -/
theorem eq_ensureTag_of_mem (h : s.Integrity) {tenant name : String} {t : Tag} (ht : t ∈ s.tags)
    (htenant : t.organizationId = tenant) (hname : t.name = name) :
    t = (s.ensureTag tenant name).2 := by
  have hfound := mem_ensureTag s tenant name
  have hkey := organizationId_ensureTag s tenant name
  have hkey' := name_ensureTag s tenant name
  -- names are unique among the tags that are there afterwards
  refine List.inj_on_of_nodup_map (h.ensureTag tenant name).tag_names ?_ hfound ?_
  · rw [ensureTag_eq_including]
    unfold including
    split
    · exact ht
    · exact List.mem_append_left _ ht
  · rw [htenant, hname, hkey, hkey']

/-- What is found once is found again. -/
theorem ensureTag_of_mem (h : s.Integrity) {t : Tag} (ht : t ∈ s.tags) :
    s.ensureTag t.organizationId t.name = (s, t) := by
  have htag := eq_ensureTag_of_mem h ht rfl rfl
  have hstore := ensureTag_eq_including s t.organizationId t.name
  rw [← htag, including_of_mem ht] at hstore
  exact Prod.ext hstore htag.symm

/-! ### Links -/

/-- **To tag a contact** adds the tag and the link as far as they are missing.  Only the link asks
for the contact. -/
theorem tagContact_eq (h : s.Integrity) (tenant contactId name : String) :
    s.tagContact tenant contactId name =
      let found := s.ensureTag tenant name
      if s.hasContact contactId then
        (.ok (), { found.1 with links := including s.links ⟨contactId, found.2.id⟩ })
      else (.error .dangling, found.1) := by
  have hfound := ensureTag_eq_including s tenant name
  have hcontact : (s.ensureTag tenant name).1.hasContact contactId = s.hasContact contactId := by
    rw [hfound]
    rfl
  have hlinks : (s.ensureTag tenant name).1.links = s.links := by rw [hfound]
  unfold tagContact
  simp only [List.contains_iff_mem, hlinks, hcontact]
  split
  next hthere =>
    -- whoever has a link exists
    have hexists : s.hasContact contactId = true := hasContact_iff.2 (h.link_contact _ hthere)
    rw [if_pos hexists, including_of_mem hthere, ← hlinks]
  next hmissing => rw [including_of_not_mem hmissing]

end Store

/-! ### Writes to a book -/

namespace Book

variable {b : Book}

theorem addContact_eq (b : Book) (tenant : String) (draft : Draft) (now : Instant) :
    b.addContact tenant draft now =
      if b.locked then (.error .poisoned, b)
      else if b.store.hasContact draft.id then (.error (.ofReport (.notUnique .id)), b)
      else (.ok (), { b with store := { b.store with
        contacts := b.store.contacts ++ [draft.record tenant now] } }) := by
  obtain ⟨policy, s, engine, locked⟩ := b
  unfold addContact write orElseUnchanged Store.addContact
  cases locked with
  | true => rfl
  | false => cases hcontact : s.hasContact draft.id <;> simp [hcontact, Except.map, Except.mapError]

theorem addWorkflow_eq (b : Book) (contactId workflow : String) :
    b.addWorkflow contactId workflow =
      if b.locked then (.error .poisoned, b)
      else if b.store.hasContact contactId then
        let id := Store.nextId (b.store.workflowStates.map (·.id))
        (.ok id, { b with store := { b.store with
          workflowStates := b.store.workflowStates ++ [⟨id, contactId, workflow⟩] } })
      else (.error (.ofReport .dangling), b) := by
  obtain ⟨policy, s, engine, locked⟩ := b
  unfold addWorkflow write orElseUnchanged Store.addWorkflow
  cases locked with
  | true => rfl
  | false => cases hcontact : s.hasContact contactId <;> simp [hcontact, Except.mapError]

theorem tagContact_eq (h : b.store.Integrity) (tenant contactId name : String) :
    b.tagContact tenant contactId name =
      if b.locked then (.error .poisoned, b)
      else
        let tag := (b.store.ensureTag tenant name).2
        let tagged : Store := { b.store with tags := including b.store.tags tag }
        if b.store.hasContact contactId then
          (.ok (), { b with store := { tagged with
            links := including b.store.links ⟨contactId, tag.id⟩ } })
        else (.error (.ofReport .dangling), { b with store := tagged }) := by
  obtain ⟨policy, s, engine, locked⟩ := b
  cases locked with
  | true => rfl
  | false =>
      simp only [tagContact, write, Store.tagContact_eq h, Store.ensureTag_eq_including]
      cases s.hasContact contactId <;> simp [Except.mapError]

/-! ### What is left -/

/-- A contact that is refused changes nothing, and one that is added is one row more. -/
theorem left_of_addContact {tenant : String} {draft : Draft} {now : Instant}
    {answer : Except Fault Unit} {left : Book}
    (h : b.addContact tenant draft now = (answer, left)) :
    (answer.isOk = false → left = b) ∧
      (answer = .ok () → left = { b with store := { b.store with
        contacts := b.store.contacts ++ [draft.record tenant now] } }) := by
  rw [addContact_eq] at h
  split at h
  · obtain ⟨rfl, rfl⟩ := Prod.mk.inj h
    exact ⟨fun _ => rfl, nofun⟩
  split at h
  · obtain ⟨rfl, rfl⟩ := Prod.mk.inj h
    exact ⟨fun _ => rfl, nofun⟩
  · obtain ⟨rfl, rfl⟩ := Prod.mk.inj h
    exact ⟨nofun, fun _ => rfl⟩

/-- A workflow state that is refused changes nothing, and one that is added is one row more, with a
new id. -/
theorem left_of_addWorkflow {contactId workflow : String} {answer : Except Fault Nat} {left : Book}
    (h : b.addWorkflow contactId workflow = (answer, left)) :
    (answer.isOk = false → left = b) ∧
      ∀ id, answer = .ok id → id ∉ b.store.workflowStates.map (·.id) ∧
        left = { b with store := { b.store with
          workflowStates := b.store.workflowStates ++ [⟨id, contactId, workflow⟩] } } := by
  rw [addWorkflow_eq] at h
  split at h
  · obtain ⟨rfl, rfl⟩ := Prod.mk.inj h
    exact ⟨fun _ => rfl, nofun⟩
  split at h
  · obtain ⟨rfl, rfl⟩ := Prod.mk.inj h
    refine ⟨nofun, ?_⟩
    rintro id hid
    obtain rfl := Except.ok.inj hid
    exact ⟨Store.nextId_not_mem _, rfl⟩
  · obtain ⟨rfl, rfl⟩ := Prod.mk.inj h
    exact ⟨fun _ => rfl, nofun⟩

/-- The same call again finds the tag and the link, and changes nothing. -/
theorem tagContact_again (hb : b.store.Integrity) {tenant contactId name : String} {left : Book}
    (h : b.tagContact tenant contactId name = (.ok (), left)) :
    left.tagContact tenant contactId name = (.ok (), left) := by
  have hleft : left.store.Integrity := by
    have hafter := hb.apply (b := b) (.tagContact tenant contactId name)
    rwa [Call.apply, h] at hafter
  rw [tagContact_eq hb] at h
  split at h
  · cases (Prod.mk.inj h).1
  next hopen =>
    simp only at h
    split at h
    next hthere =>
      obtain ⟨-, rfl⟩ := Prod.mk.inj h
      have htag := mem_including b.store.tags (b.store.ensureTag tenant name).2
      have hlink := mem_including b.store.links ⟨contactId, (b.store.ensureTag tenant name).2.id⟩
      have hfound := Store.ensureTag_of_mem hleft htag
      rw [b.store.organizationId_ensureTag, b.store.name_ensureTag] at hfound
      rw [tagContact_eq hleft, if_neg hopen]
      simp only [hfound, including_of_mem htag, including_of_mem hlink]
      exact if_pos hthere
    · cases (Prod.mk.inj h).1

/-- To tag a contact leaves the tag behind, and the link as well if the contact exists.  Only a
locked book keeps out both. -/
theorem left_of_tagContact (hb : b.store.Integrity) {tenant contactId name : String}
    {answer : Except Fault Unit} {left : Book}
    (h : b.tagContact tenant contactId name = (answer, left)) :
    let tag := (b.store.ensureTag tenant name).2
    (b.locked = true → answer = .error .poisoned ∧ left = b) ∧
    (b.locked = false → b.store.hasContact contactId = false →
      answer = .error (.ofReport .dangling) ∧
        left = { b with store := { b.store with tags := including b.store.tags tag } }) ∧
    (b.locked = false → b.store.hasContact contactId = true →
      answer = .ok () ∧ left = { b with store := { b.store with
        tags := including b.store.tags tag
        links := including b.store.links ⟨contactId, tag.id⟩ } }) := by
  rw [tagContact_eq hb] at h
  refine ⟨fun hlocked => ?locked, fun hopen hunknown => ?unknown, fun hopen hknown => ?known⟩
  case locked =>
    rw [if_pos hlocked] at h
    exact ⟨(Prod.mk.inj h).1.symm, (Prod.mk.inj h).2.symm⟩
  case unknown =>
    rw [if_neg (Bool.eq_false_iff.1 hopen)] at h
    simp only [hunknown, Bool.false_eq_true, if_false] at h
    exact ⟨(Prod.mk.inj h).1.symm, (Prod.mk.inj h).2.symm⟩
  case known =>
    rw [if_neg (Bool.eq_false_iff.1 hopen)] at h
    simp only [hknown, if_true] at h
    exact ⟨(Prod.mk.inj h).1.symm, (Prod.mk.inj h).2.symm⟩

/-- **What the writes leave behind**, in a book whose store calls led to.

A contact that is refused changes nothing, and one that is added is one row more; the same holds of
a workflow state, whose id is new.  To tag a contact concerns one tag, that of the organisation with
the name.  A locked book refuses it and stays as it was.  If the contact does not exist it is
refused too, and contacts, links and workflow states are as they were, but the tag is there
afterwards: it was added if it was missing.  If the contact exists the call succeeds, the tag and
its link are there, added as far as they were missing, and the same call again changes nothing. -/
theorem left_by_writes (hb : b.store.Reachable) (tenant : String) :
    (∀ draft now answer left, b.addContact tenant draft now = (answer, left) →
      (answer.isOk = false → left = b) ∧
      (answer = .ok () → left = { b with store := { b.store with
        contacts := b.store.contacts ++ [draft.record tenant now] } })) ∧
    (∀ contactId workflow answer left, b.addWorkflow contactId workflow = (answer, left) →
      (answer.isOk = false → left = b) ∧
      ∀ id, answer = .ok id → id ∉ b.store.workflowStates.map (·.id) ∧
        left = { b with store := { b.store with
          workflowStates := b.store.workflowStates ++ [⟨id, contactId, workflow⟩] } }) ∧
    ∀ contactId name answer left, b.tagContact tenant contactId name = (answer, left) →
      ∃ tag : Tag, tag.organizationId = tenant ∧ tag.name = name ∧
        (tag ∈ b.store.tags ∨ tag.id ∉ b.store.tags.map (·.id)) ∧
        (∀ t ∈ b.store.tags, t.organizationId = tenant → t.name = name → t = tag) ∧
        (b.locked = true → answer = .error .poisoned ∧ left = b) ∧
        (b.locked = false → b.store.hasContact contactId = false →
          answer = .error (.ofReport .dangling) ∧
            left = { b with store := { b.store with tags := including b.store.tags tag } }) ∧
        (b.locked = false → b.store.hasContact contactId = true →
          answer = .ok () ∧ left = { b with store := { b.store with
            tags := including b.store.tags tag
            links := including b.store.links ⟨contactId, tag.id⟩ } } ∧
          left.tagContact tenant contactId name = (.ok (), left)) := by
  have hintegrity := hb.integrity
  refine ⟨fun _ _ _ _ => left_of_addContact, fun _ _ _ _ => left_of_addWorkflow, ?_⟩
  intro contactId name answer left h
  obtain ⟨hlocked, hunknown, hknown⟩ := left_of_tagContact hintegrity h
  refine ⟨(b.store.ensureTag tenant name).2, b.store.organizationId_ensureTag tenant name,
    b.store.name_ensureTag tenant name, b.store.mem_or_id_not_mem_ensureTag tenant name,
    fun t ht => Store.eq_ensureTag_of_mem hintegrity ht, hlocked, hunknown, fun hopen hthere => ?_⟩
  obtain ⟨rfl, hleft⟩ := hknown hopen hthere
  exact ⟨rfl, hleft, tagContact_again hintegrity h⟩

/-- In a small store: the id of a contact is taken, by another organisation at that, and a workflow
is meant for nobody.  A tag that was not there is meant for nobody as well and is left behind, but
not if the book is locked; and a contact gets a tag that was not there. -/
theorem left_by_writes_twoOffices :
    let b : Book := { policy := .lenient, store := .twoOffices }
    let shut : Book := { b with locked := true }
    let refused := b.tagContact "acme" "nobody" "lead"
    let left := (b.tagContact "acme" "a3" "lead").2
    b.store.Reachable ∧
      (b.addContact "globex" { id := "a1" } ⟨newYear, 0, 0⟩).2 = b ∧
      (b.addWorkflow "nobody" "onboarding").2 = b ∧
      refused.1 = .error (.ofReport .dangling) ∧
      (∃ tag ∉ b.store.tags, tag.organizationId = "acme" ∧ tag.name = "lead" ∧
        refused.2 = { b with store := { b.store with tags := b.store.tags ++ [tag] } }) ∧
      shut.tagContact "acme" "nobody" "lead" = (.error .poisoned, shut) ∧
      left.store.tags = b.store.tags ++ [⟨3, "acme", "lead"⟩] ∧
      left.store.links = b.store.links ++ [⟨"a3", 3⟩] ∧
      left.tagContact "acme" "a3" "lead" = (.ok (), left) := by
  intro b shut refused left
  have hb : b.store.Reachable := Store.reachable_twoOffices
  have htaken : (b.addContact "globex" { id := "a1" } ⟨newYear, 0, 0⟩).1.isOk = false := by
    decide +kernel
  have hnobody : (b.addWorkflow "nobody" "onboarding").1.isOk = false := by decide +kernel
  have hunknown : b.store.hasContact "nobody" = false := by decide +kernel
  have hknown : b.store.hasContact "a3" = true := by decide +kernel
  have hnew : ∀ t ∈ b.store.tags, t.name ≠ "lead" := by decide +kernel
  obtain ⟨hcontact, -, -⟩ := left_by_writes hb "globex"
  obtain ⟨-, hworkflow, htag⟩ := left_by_writes hb "acme"
  obtain ⟨tag, htenant, hname, -, -, -, hrefused, -⟩ := htag "nobody" "lead" _ refused.2 rfl
  obtain ⟨hfault, hleft⟩ := hrefused rfl hunknown
  have hmissing : tag ∉ b.store.tags := fun hmem => hnew tag hmem hname
  rw [including_of_not_mem hmissing] at hleft
  obtain ⟨-, -, htag'⟩ := left_by_writes (b := shut) hb "acme"
  obtain ⟨_, -, -, -, -, hlocked, -, -⟩ := htag' "nobody" "lead" _ _ rfl
  obtain ⟨_, -, -, -, -, -, -, hok⟩ := htag "a3" "lead" _ left rfl
  exact ⟨hb, (hcontact { id := "a1" } ⟨newYear, 0, 0⟩ _ _ rfl).1 htaken,
    (hworkflow "nobody" "onboarding" _ _ rfl).1 hnobody, hfault,
    ⟨tag, hmissing, htenant, hname, hleft⟩, Prod.ext (hlocked rfl).1 (hlocked rfl).2,
    by decide +kernel, by decide +kernel, (hok rfl hknown).2.2⟩

/-- **A tag that a refused call leaves behind**: nobody has the id, the call fails, and the tag is
there where none was before. -/
theorem tag_left_by_refused :
    let b : Book := { policy := .lenient, store := .empty }
    let (answer, left) := b.tagContact "acme" "nobody" "lead"
    b.store.Reachable ∧ answer = .error (.ofReport .dangling) ∧
      b.store.tags = [] ∧ left.store.tags = [⟨1, "acme", "lead"⟩] := by
  exact ⟨.empty, rfl, rfl, rfl⟩

end Book

end ContactBook
