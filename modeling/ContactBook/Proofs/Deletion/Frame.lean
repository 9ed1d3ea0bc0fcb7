/-
**What a request to delete leaves alone.**

Whatever the store is like, even one in which two contacts have one id, a request either changes
nothing or is accounted for row by row: the contacts that vanish are as many as it counts and belong
to the organisation, links and workflow states vanish only with their contacts, and workflow states
only if the request is forced.

The account is kept stage by stage.  The copy of the store is untouched until workflow states are
released; then it lacks these; and it lacks the contacts as well when the request completes.  Only
then it replaces the store.

Main definitions:

* `ContactBook.vanished` — the rows of a table that are no longer there;
* `ContactBook.Deletion.Deletes` — the account of a deletion;
* `ContactBook.Deletion.Stage.Accounts` — the account before a stage.

Main results:

* `ContactBook.Deletion.accounts_advance` — **every stage keeps the account**;
* `ContactBook.Deletion.deletes_of_run`, `ContactBook.Deletion.store_of_run_eq_error` — **all is
  deleted that is counted, or nothing is**.
-/

import ContactBook.Proofs.Deletion.Batches

set_option autoImplicit false

namespace ContactBook

/-! ### Vanished rows -/

section

variable {α : Type} [DecidableEq α]

/-- The rows of a table that are no longer there. -/
def vanished (before after : List α) : List α := before.filter fun a => !after.contains a

@[simp] theorem vanished_self (rows : List α) : vanished rows rows = [] := by
  simp [vanished]

/-- Where the rows that pass a test are taken out, these are the ones that vanish. -/
theorem vanished_filter (p : α → Bool) (rows : List α) :
    vanished rows (rows.filter fun a => !p a) = rows.filter p := by
  refine List.filter_congr fun a ha => ?_
  cases hp : p a <;> simp [ha, hp]

end

namespace Deletion

variable {e : Engine} {today : Int} {s s' : Store} {tenant : String} {request : Request}
  {force : Bool}

/-- The store `s` has become `s'` by deleting as many contacts of an organisation as are counted. -/
structure Deletes (tenant : String) (force : Bool) (count : Nat) (s s' : Store) : Prop where
  /-- No contact is added or changed. -/
  contacts : s'.contacts.Sublist s.contacts
  /-- As many vanish as are counted. -/
  count : (vanished s.contacts s'.contacts).length = count
  /-- They belong to the organisation. -/
  organizationId : ∀ r ∈ vanished s.contacts s'.contacts, r.organizationId = tenant
  /-- Tags stay. -/
  tags : s'.tags = s.tags
  /-- No link is added or changed. -/
  links : s'.links.Sublist s.links
  /-- Links vanish with their contacts. -/
  link_contact : ∀ l ∈ vanished s.links s'.links,
    ∃ r ∈ vanished s.contacts s'.contacts, r.id = l.contactId
  /-- No workflow state is added or changed. -/
  workflowStates : s'.workflowStates.Sublist s.workflowStates
  /-- Workflow states vanish with their contacts. -/
  workflow_contact : ∀ w ∈ vanished s.workflowStates s'.workflowStates,
    ∃ r ∈ vanished s.contacts s'.contacts, r.id = w.contactId
  /-- They vanish only by force. -/
  unforced : force = false → s'.workflowStates = s.workflowStates

/-- To do nothing is to delete no contacts. -/
theorem Deletes.refl (tenant : String) (force : Bool) (s : Store) : Deletes tenant force 0 s s := by
  constructor <;> simp

/-! ### The stages -/

/-- What a request has made of the store `s` before a stage: it is `copy`. -/
def Stage.Accounts (tenant : String) (force : Bool) (s copy : Store) : Stage → Prop
  | .start | .resolving | .checking _ => copy = s
  | .cascading _ => copy = s ∧ force = true
  | .deleting targets => copy = s ∨ force = true ∧ copy = (releaseBatch tenant s targets.ids).2
  | .completed outcome => Deletes tenant force outcome.deleted s copy
  | .aborted _ => True

/-- The contacts that a statement deletes are those that it finds. -/
theorem vanished_remainder (ids : List String) :
    vanished s.contacts (remainder tenant s ids).contacts =
      s.contacts.filter (isOwned tenant ids) :=
  vanished_filter _ _

/-- A statement on some ids is accounted for, also if the workflow states of the contacts that it
finds were deleted by force before. -/
theorem deletes_remainder (ids : List String) {kept : List WorkflowState}
    (hkept : kept.Sublist s.workflowStates)
    (hgone : ∀ w ∈ vanished s.workflowStates kept, w.contactId ∈ ownedInBatch s tenant ids)
    (hforce : force = false → kept = s.workflowStates) :
    Deletes tenant force (s.contacts.countP (isOwned tenant ids)) s
      { remainder tenant s ids with workflowStates := kept } := by
  have hfound : ∀ {id}, id ∈ ownedInBatch s tenant ids →
      ∃ r ∈ vanished s.contacts (remainder tenant s ids).contacts, r.id = id := by
    intro id hid
    rw [vanished_remainder]
    exact List.mem_map.1 hid
  refine
    { contacts := List.filter_sublist, count := ?_, organizationId := ?_, tags := rfl,
      links := List.filter_sublist, link_contact := fun l hl => hfound ?_, workflowStates := hkept,
      workflow_contact := fun w hw => hfound (hgone w hw), unforced := hforce }
  · rw [List.countP_eq_length_filter, ← vanished_remainder]
  · intro r hr
    rw [vanished_remainder] at hr
    exact (isOwned_iff.1 (List.mem_filter.1 hr).2).1
  · change l ∈ vanished s.links (remainder tenant s ids).links at hl
    rw [remainder, vanished_filter] at hl
    exact List.contains_iff_mem.1 (List.mem_filter.1 hl).2

/-- So is a statement on ids that were released. -/
theorem deletes_released (ids : List String) :
    Deletes tenant true (s.contacts.countP (isOwned tenant ids)) s
      (remainder tenant (releaseBatch tenant s ids).2 ids) := by
  refine deletes_remainder ids List.filter_sublist (fun w hw => ?_) fun h => nomatch h
  simp only [releaseBatch, vanished_filter] at hw
  exact List.contains_iff_mem.1 (List.mem_filter.1 hw).2

section

variable {size : Nat}

/-- To look up what a request means completes it only if there is nothing to do. -/
theorem accounts_resolve :
    (resolve e today size tenant request s).Accounts tenant request.force s s := by
  unfold resolve
  split
  · simp only
    split
    · exact .refl tenant request.force s
    · rfl
  · split
    · trivial
    · trivial
    · rfl

/-- Workflow states are deleted only by force. -/
theorem accounts_check (targets : Targets) :
    (check size request s targets).Accounts tenant request.force s s := by
  unfold check
  split
  · split
    next hforce => exact ⟨rfl, hforce⟩
    next => exact .inl rfl
  · split
    · exact .inl rfl
    · split
      next hforce => exact ⟨rfl, hforce⟩
      next => trivial

/-- **Every stage keeps the account.** -/
theorem accounts_advance (hsize : 0 < size) {p : Progress}
    (h : p.stage.Accounts tenant request.force s p.store) :
    (advance e today size tenant request p).stage.Accounts tenant request.force s
      (advance e today size tenant request p).store := by
  obtain ⟨stage, copy, passed, cascaded⟩ := p
  cases stage with
  | start => exact h
  | resolving =>
      obtain rfl : copy = s := h
      exact accounts_resolve
  | checking targets =>
      obtain rfl : copy = s := h
      exact accounts_check targets
  | cascading targets =>
      obtain ⟨rfl, hforce⟩ : copy = s ∧ request.force = true := h
      refine .inr ⟨hforce, ?_⟩
      simp only [advance, release_eq, flatten_batches hsize]
  | deleting targets =>
      have hdeletes : Deletes tenant request.force
          (copy.contacts.countP (isOwned tenant targets.ids)) s
          (remainder tenant copy targets.ids) := by
        rcases h with h | ⟨hforce, h⟩
        · obtain rfl : copy = s := h
          exact deletes_remainder targets.ids (.refl _) (by simp) fun _ => rfl
        · obtain rfl : copy = (releaseBatch tenant s targets.ids).2 := h
          rw [hforce]
          exact deletes_released (s := s) targets.ids
      simp only [advance, delete_eq, flatten_batches hsize, deleteBatch_eq]
      cases isHeld tenant copy targets.ids with
      | true => trivial
      | false => simpa [Except.map, Stage.Accounts] using hdeletes
  | completed outcome => exact h
  | aborted fault => exact h

/-- And so do some stages, one after the other. -/
theorem accounts_advanceBy (hsize : 0 < size) (n : Nat) {p : Progress}
    (h : p.stage.Accounts tenant request.force s p.store) :
    (advanceBy e today size tenant request n p).stage.Accounts tenant request.force s
      (advanceBy e today size tenant request n p).store := by
  induction n generalizing p with
  | zero => exact h
  | succ n ih => exact ih (accounts_advance hsize h)

theorem accounts_finish (hsize : 0 < size) :
    (finish e today size tenant request s).stage.Accounts tenant request.force s
      (finish e today size tenant request s).store :=
  accounts_advanceBy hsize _ rfl

end

/-! ### The whole request -/

/-- **What is counted is deleted.** -/
theorem deletes_of_run {outcome : Outcome} (h : (run e today s tenant request).1 = .ok outcome) :
    Deletes tenant request.force outcome.deleted s (run e today s tenant request).2 := by
  have haccounts : (finish e today batchSize tenant request s).stage.Accounts tenant request.force s
      (finish e today batchSize tenant request s).store := accounts_finish (by decide)
  unfold run at h ⊢
  generalize finish e today batchSize tenant request s = p at h haccounts ⊢
  obtain ⟨stage, copy, passed, cascaded⟩ := p
  cases stage with
  | completed done =>
      obtain rfl : done = outcome := Except.ok.inj h
      exact haccounts
  | _ => exact nomatch h

/-- **A request that fails changes nothing.** -/
theorem store_of_run_eq_error {fault : Fault}
    (h : (run e today s tenant request).1 = .error fault) :
    (run e today s tenant request).2 = s := by
  unfold run at h ⊢
  generalize finish e today batchSize tenant request s = p at h ⊢
  obtain ⟨stage, copy, passed, cascaded⟩ := p
  cases stage with
  | completed done => exact nomatch h
  | _ => rfl

end Deletion

end ContactBook
