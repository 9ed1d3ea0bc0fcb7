/-
**Runs of a book.**

Users go on calling a book, and many of their calls fail: an id is taken, a contact does not exist,
a deletion meets a workflow and is undone, the book is locked.  Whatever was called and however it
ended, the keys of the rows are their own afterwards, and what rows refer to exists.

Main definitions:

* `ContactBook.Book.Step`, `ContactBook.Book.run` — a call or a listing, and the book that a run of
  them leaves.

Main results:

* `ContactBook.Book.integrity_step`, `ContactBook.Book.integrity_run` — a step keeps integrity, and
  so does a run;
* `ContactBook.Book.keys_and_references_run` — **keys and references after a run**.
-/

import ContactBook.Proofs.Store.Reachable

set_option autoImplicit false

namespace ContactBook.Book

/-- What users do with a book: a call that may write, or a listing. -/
inductive Step where
  | call (c : Call)
  | list (today : Int) (tenant : String) (filter : Option Filter) (term : Option String)

/-- The book that a step leaves.  A listing leaves it as it was. -/
def Step.apply (b : Book) : Step → Book
  | .call c => c.apply b
  | .list .. => b

/-- The book that steps leave, one after the other. -/
def run (b : Book) (steps : List Step) : Book := steps.foldl (fun b step => step.apply b) b

variable {b : Book}

/-- A step keeps integrity, whether it succeeds or fails. -/
theorem integrity_step (h : b.store.Integrity) (step : Step) :
    (step.apply b).store.Integrity := by
  cases step with
  | call c => exact h.apply c
  | list today tenant filter term => exact h

/-- **A run keeps integrity.** -/
theorem integrity_run (h : b.store.Integrity) (steps : List Step) :
    (b.run steps).store.Integrity := by
  induction steps generalizing b with
  | nil => exact h
  | cons step steps ih => exact ih (integrity_step h step)

/-- **Keys and references after a run.**  The run begins with a store that calls led to, the empty
store among them, and its steps succeed or fail.  Afterwards no two contacts of whatever
organisations have one id, no two tags of an organisation one name, no two links the same ends, and
no two workflow states one id; links refer to contacts and tags that exist, and workflow states to
contacts that do. -/
theorem keys_and_references_run (hb : b.store.Reachable) (steps : List Step) :
    let s := (b.run steps).store
    (s.contacts.map (·.id)).Nodup ∧
      (s.tags.map fun t => (t.organizationId, t.name)).Nodup ∧
      (s.links.map fun l => (l.contactId, l.tagId)).Nodup ∧
      (s.workflowStates.map (·.id)).Nodup ∧
      (∀ l ∈ s.links, (∃ r ∈ s.contacts, r.id = l.contactId) ∧ ∃ t ∈ s.tags, t.id = l.tagId) ∧
      ∀ w ∈ s.workflowStates, ∃ r ∈ s.contacts, r.id = w.contactId := by
  intro s
  have hs : s.Integrity := integrity_run hb.integrity steps
  -- a link is nothing but its two ends
  have hends : Function.Injective fun l : Link => (l.contactId, l.tagId) := by
    rintro ⟨contactId, tagId⟩ ⟨contactId', tagId'⟩ h
    obtain ⟨rfl, rfl⟩ := Prod.mk.inj h
    rfl
  exact ⟨hs.contact_ids, hs.tag_names, hs.links.map hends, hs.workflow_ids,
    fun l hl => ⟨hs.link_contact l hl, hs.link_tag l hl⟩, hs.workflow_contact⟩

/-- A run of which half the steps fail.  The id `a1` is taken and later free, a tag is made for a
contact that does not exist, and a deletion is undone because the contact takes part in a
workflow. -/
theorem keys_and_references_run_twoOffices :
    let b : Book := { policy := .strict, store := .twoOffices }
    let again : Call := .addContact "globex" { id := "a1" } ⟨newYear, 0, 0⟩
    let ada : Filter := ⟨[⟨"firstName", .equals, "Ada"⟩], .all⟩
    let adams : Filter := ⟨[⟨"lastName", .equals, "Adams"⟩], .all⟩
    let steps : List Step := [.call again, .call (.tagContact "acme" "nobody" "lead"),
      .call (.delete newYear "acme" ⟨.matching (some adams) none, false⟩),
      .call (.delete newYear "acme" ⟨.matching (some ada) none, false⟩),
        .list newYear "acme" (some ada) none,
      .call again]
    let s := (b.run steps).store
    b.store.Reachable ∧
      s.contacts.map (fun r => (r.organizationId, r.id)) =
        [("acme", "a2"), ("acme", "a3"), ("globex", "g1"), ("globex", "a1")] ∧
      s.tags.map (fun t => (t.organizationId, t.name)) =
        [("acme", "vip"), ("globex", "vip"), ("acme", "lead")] ∧
      (s.contacts.map (·.id)).Nodup ∧
      ∀ l ∈ s.links, (∃ r ∈ s.contacts, r.id = l.contactId) ∧ ∃ t ∈ s.tags, t.id = l.tagId := by
  intro b again ada adams steps s
  have hb : b.store.Reachable := Store.reachable_twoOffices
  obtain ⟨hids, -, -, -, hlinks, -⟩ := keys_and_references_run hb steps
  exact ⟨hb, by decide +kernel, by decide +kernel, hids, hlinks⟩

end ContactBook.Book
