/-
**Batches make no difference.**

Contacts are looked up, released and deleted in batches, and each batch works on the store that the
one before it has left.  This module proves that the batches of a list do together what one
statement on the whole list would do: they find the same ids, delete the same rows, count the same
number, and fail when the one statement would fail.

The law behind it is that a statement on two lists put together is the statement on the first and
then, on the store that is left, the statement on the second.  An id that stands in both lists is
worked off by the first; so the law holds whatever is repeated.

Main definition:

* `ContactBook.Store.owns` — whether an organisation has a contact with an id.

Main results:

* `ContactBook.Deletion.releaseBatch_append`, `deleteBatch_append` — the law for one list after
  another;
* `ContactBook.Deletion.release_eq`, `delete_eq` — **all batches do what one statement does**;
* `ContactBook.Deletion.filter_owned`, `dependents_eq` — and they find what one statement finds.
-/

import ContactBook.Deletion
import ContactBook.Proofs.List

set_option autoImplicit false

namespace ContactBook

/-! ### What an organisation has -/

/-- Whether an organisation has a contact with an id. -/
def Store.owns (s : Store) (tenant id : String) : Bool :=
  s.contacts.any fun r => r.organizationId == tenant && r.id == id

theorem Store.owns_iff {s : Store} {tenant id : String} :
    s.owns tenant id = true ↔ ∃ r ∈ s.contacts, r.organizationId = tenant ∧ r.id = id := by
  simp [Store.owns]

namespace Deletion

variable {s : Store} {tenant : String}

theorem isOwned_iff {ids : List String} {r : Record} :
    isOwned tenant ids r = true ↔ r.organizationId = tenant ∧ r.id ∈ ids := by
  simp [isOwned]

theorem isOwned_append (a b : List String) (r : Record) :
    isOwned tenant (a ++ b) r = (isOwned tenant a r || isOwned tenant b r) := by
  simp [isOwned, Bool.and_or_distrib_left]

theorem mem_ownedInBatch_iff {ids : List String} {id : String} :
    id ∈ ownedInBatch s tenant ids ↔ id ∈ ids ∧ s.owns tenant id = true := by
  simp only [ownedInBatch, List.mem_map, List.mem_filter, isOwned_iff, Store.owns_iff]
  constructor
  · rintro ⟨r, ⟨hr, ht, hid⟩, rfl⟩
    exact ⟨hid, r, hr, ht, rfl⟩
  · rintro ⟨hid, r, hr, ht, rfl⟩
    exact ⟨r, ⟨hr, ht, hid⟩, rfl⟩

/-- What a statement finds of a batch, as a test on one id. -/
theorem contains_ownedInBatch (ids : List String) (id : String) :
    (ownedInBatch s tenant ids).contains id = (ids.contains id && s.owns tenant id) := by
  rw [Bool.eq_iff_iff, Bool.and_eq_true, List.contains_iff_mem, List.contains_iff_mem,
    mem_ownedInBatch_iff]

/-! ### Finding -/

/-- The ids that are found in batches are those of the organisation. -/
theorem filter_owned {size : Nat} (hs : 0 < size) (ids : List String) :
    ids.filter (owned size s tenant ids).contains = ids.filter (s.owns tenant) := by
  refine List.filter_congr fun id hid => ?_
  have hfound : id ∈ owned size s tenant ids ↔ s.owns tenant id = true := by
    simp only [owned, List.mem_flatMap, mem_ownedInBatch_iff, ← and_assoc, exists_and_right,
      exists_mem_batches_iff hs, hid, true_and]
  rw [Bool.eq_iff_iff, List.contains_iff_mem, hfound]

theorem mem_dependentInBatch_iff {ids : List String} {id : String} :
    id ∈ dependentInBatch s ids ↔ id ∈ ids ∧ s.hasWorkflow id = true := by
  simp only [dependentInBatch, Store.hasWorkflow, List.mem_map, List.mem_filter, List.any_eq_true,
    List.contains_iff_mem, beq_iff_eq]
  constructor
  · rintro ⟨w, ⟨hw, hid⟩, rfl⟩
    exact ⟨hid, w, hw, rfl⟩
  · rintro ⟨hid, w, hw, rfl⟩
    exact ⟨w, ⟨hw, hid⟩, rfl⟩

/-- The ids that are found in batches to be in workflows are those that are. -/
theorem dependents_eq {size : Nat} (hs : 0 < size) (ids : List String) :
    dependents size s ids = ids.filter s.hasWorkflow := by
  refine List.filter_congr fun id hid => ?_
  have hfound : id ∈ (batches size ids).flatMap (dependentInBatch s) ↔ s.hasWorkflow id = true := by
    simp only [List.mem_flatMap, mem_dependentInBatch_iff, ← and_assoc, exists_and_right,
      exists_mem_batches_iff hs, hid, true_and]
  rw [Bool.eq_iff_iff, List.contains_iff_mem, hfound]

/-! ### Releasing -/

@[simp] theorem releaseBatch_nil : releaseBatch tenant s [] = (0, s) := by
  simp [releaseBatch, ownedInBatch, isOwned]

/-- Releasing leaves the organisation the contacts that it had. -/
theorem owns_releaseBatch (ids : List String) :
    (releaseBatch tenant s ids).2.owns tenant = s.owns tenant := rfl

/-- **Releasing two lists is releasing the one and then the other.** -/
theorem releaseBatch_append (a b : List String) :
    releaseBatch tenant s (a ++ b) =
      ((releaseBatch tenant s a).1 + (releaseBatch tenant (releaseBatch tenant s a).2 b).1,
        (releaseBatch tenant (releaseBatch tenant s a).2 b).2) := by
  -- an id of both lists is found twice, but the second time it has no rows left
  have hfound : ∀ id, (ownedInBatch s tenant (a ++ b)).contains id =
      ((ownedInBatch s tenant a).contains id ||
        (ownedInBatch (releaseBatch tenant s a).2 tenant b).contains id) := by
    intro id
    rw [contains_ownedInBatch, contains_ownedInBatch, contains_ownedInBatch, owns_releaseBatch,
      List.contains_append, Bool.and_or_distrib_right]
  simp only [releaseBatch] at hfound ⊢
  simp only [hfound, countP_or, List.filter_filter, Bool.not_or]
  simp only [Bool.and_comm]

/-- **Releasing in batches is releasing by one statement.** -/
theorem release_eq (parts : List (List String)) (count : Nat) :
    release tenant (count, s) parts =
      (count + (releaseBatch tenant s parts.flatten).1,
        (releaseBatch tenant s parts.flatten).2) := by
  induction parts generalizing s count with
  | nil => simp [release]
  | cons ids parts ih =>
      change release tenant (count + (releaseBatch tenant s ids).1, (releaseBatch tenant s ids).2)
        parts = _
      rw [ih, List.flatten_cons, releaseBatch_append, Nat.add_assoc]

/-! ### Deleting -/

/-- The report that a contact is still in a workflow. -/
def inWorkflow : Report := .failure Report.brokenReference "FOREIGN KEY constraint failed"

/-- Whether a statement on some ids meets a contact in a workflow. -/
def isHeld (tenant : String) (s : Store) (ids : List String) : Bool :=
  s.workflowStates.any fun w => (ownedInBatch s tenant ids).contains w.contactId

/-- What a statement on some ids leaves if it is not refused. -/
def remainder (tenant : String) (s : Store) (ids : List String) : Store :=
  { s with
    contacts := s.contacts.filter fun r => !isOwned tenant ids r
    links := s.links.filter fun l => !(ownedInBatch s tenant ids).contains l.contactId }

theorem deleteBatch_eq (ids : List String) :
    deleteBatch tenant s ids =
      if isHeld tenant s ids then .error inWorkflow
      else .ok (s.contacts.countP (isOwned tenant ids), remainder tenant s ids) := rfl

/-- Of what is left, the organisation has the ids that it had and that were not deleted. -/
theorem owns_remainder (ids : List String) (id : String) :
    (remainder tenant s ids).owns tenant id = (s.owns tenant id && !ids.contains id) := by
  rw [Bool.eq_iff_iff, Bool.and_eq_true, Store.owns_iff, Store.owns_iff]
  simp only [remainder, List.mem_filter, Bool.not_eq_true', isOwned, Bool.and_eq_false_imp,
    beq_iff_eq]
  constructor
  · rintro ⟨r, ⟨hr, hkept⟩, ht, rfl⟩
    exact ⟨⟨r, hr, ht, rfl⟩, hkept ht⟩
  · rintro ⟨⟨r, hr, ht, rfl⟩, hkept⟩
    exact ⟨r, ⟨hr, fun _ => hkept⟩, ht, rfl⟩

/-- What two lists come down to: the second finds what the first has left. -/
theorem contains_ownedInBatch_append (a b : List String) (id : String) :
    (ownedInBatch s tenant (a ++ b)).contains id =
      ((ownedInBatch s tenant a).contains id ||
        (ownedInBatch (remainder tenant s a) tenant b).contains id) := by
  rw [contains_ownedInBatch, contains_ownedInBatch, contains_ownedInBatch, owns_remainder,
    List.contains_append]
  cases a.contains id <;> cases b.contains id <;> cases s.owns tenant id <;> rfl

theorem isHeld_append (a b : List String) :
    isHeld tenant s (a ++ b) = (isHeld tenant s a || isHeld tenant (remainder tenant s a) b) := by
  -- deleting leaves the workflow states alone, so both tests go through the same ones
  simp only [isHeld, contains_ownedInBatch_append]
  rw [Bool.eq_iff_iff]
  simp only [remainder, Bool.or_eq_true, List.any_eq_true, and_or_left, exists_or]

theorem remainder_append (a b : List String) :
    remainder tenant s (a ++ b) = remainder tenant (remainder tenant s a) b := by
  simp only [remainder, Store.mk.injEq, List.filter_filter, true_and, and_true]
  constructor
  · refine List.filter_congr fun r _ => ?_
    rw [isOwned_append, Bool.not_or, Bool.and_comm]
  · refine List.filter_congr fun l _ => ?_
    rw [contains_ownedInBatch_append, Bool.not_or, Bool.and_comm]
    rfl

/-- **Deleting two lists is deleting the one and then, if that is not refused, the other.** -/
theorem deleteBatch_append (a b : List String) :
    deleteBatch tenant s (a ++ b) =
      if isHeld tenant s a then .error inWorkflow
      else (deleteBatch tenant (remainder tenant s a) b).map fun (count, left) =>
        (s.contacts.countP (isOwned tenant a) + count, left) := by
  -- the second statement counts what the first has left
  have hcount : s.contacts.countP (isOwned tenant (a ++ b)) =
      s.contacts.countP (isOwned tenant a) +
        (remainder tenant s a).contacts.countP (isOwned tenant b) :=
    calc s.contacts.countP (isOwned tenant (a ++ b))
        = s.contacts.countP (fun r => isOwned tenant a r || isOwned tenant b r) :=
          List.countP_congr fun r _ => by rw [isOwned_append]
      _ = _ := countP_or _ _ _
  rw [deleteBatch_eq, deleteBatch_eq, isHeld_append, remainder_append, hcount]
  cases isHeld tenant s a with
  | true => rfl
  | false => cases isHeld tenant (remainder tenant s a) b <;> rfl

@[simp] theorem deleteBatch_nil : deleteBatch tenant s [] = .ok (0, s) := by
  simp [deleteBatch, ownedInBatch, isOwned]

/-- **Deleting in batches is deleting by one statement.** -/
theorem delete_eq (parts : List (List String)) (count : Nat) :
    delete tenant (count, s) parts =
      (deleteBatch tenant s parts.flatten).map fun (more, left) => (count + more, left) := by
  induction parts generalizing s count with
  | nil => simp [delete, Except.map]
  | cons ids parts ih =>
      rw [delete, List.flatten_cons, deleteBatch_append, deleteBatch_eq]
      cases isHeld tenant s ids with
      | true => rfl
      | false =>
          simp only [Bool.false_eq_true, if_false, ih]
          cases deleteBatch tenant (remainder tenant s ids) parts.flatten with
          | error report => rfl
          | ok counted => simp [Except.map, Nat.add_assoc]

end Deletion

end ContactBook
