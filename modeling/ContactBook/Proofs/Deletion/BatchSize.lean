/-
**How large the batches are does not matter.**

A request is worked off in batches because a statement takes only so many values.  This module says
that nobody can tell: the batches of a list find, release and delete what one statement on the whole
list would, if it took them all, with the same count and the same store at the end, and they fail
when it would fail.  So a request goes through the same stages with batches of any size.

Main results:

* `ContactBook.Deletion.perm_owned` — the batches find each id once that one statement finds;
* `ContactBook.Deletion.advance_size_irrel`, `ContactBook.Deletion.finish_size_irrel` — **with
  batches of another size every step and every request is the same**;
* `ContactBook.Deletion.batches_as_one` — **batches do together what one statement does**.
-/

import ContactBook.Proofs.Store.Reachable
import Mathlib.Data.List.Nodup

set_option autoImplicit false

namespace ContactBook.Deletion

variable {s : Store} {tenant : String}

/-! ### Finding -/

/-- Two lists without common ids find together what the one and the other find. -/
theorem perm_ownedInBatch_append {a b : List String} (h : a.Disjoint b) :
    (ownedInBatch s tenant (a ++ b)).Perm (ownedInBatch s tenant a ++ ownedInBatch s tenant b) := by
  have hexclude : ∀ r ∈ s.contacts, isOwned tenant a r = true → isOwned tenant b r = false := by
    intro r _ ha
    rw [Bool.eq_false_iff]
    intro hb
    exact h (isOwned_iff.1 ha).2 (isOwned_iff.1 hb).2
  rw [ownedInBatch, ownedInBatch, ownedInBatch, ← List.map_append,
    funext (isOwned_append a b)]
  exact (filter_or_perm hexclude).map _

/-- Parts of a list find one after another what the whole list finds. -/
theorem perm_flatMap_ownedInBatch {parts : List (List String)} (h : parts.flatten.Nodup) :
    (parts.flatMap (ownedInBatch s tenant)).Perm (ownedInBatch s tenant parts.flatten) := by
  induction parts with
  | nil => simp [ownedInBatch, isOwned]
  | cons part parts ih =>
      rw [List.flatten_cons, List.nodup_append'] at h
      obtain ⟨-, hrest, hdisjoint⟩ := h
      rw [List.flatMap_cons, List.flatten_cons]
      exact ((ih hrest).append_left _).trans (perm_ownedInBatch_append hdisjoint).symm

/-- **The batches find each id once that one statement finds.** -/
theorem perm_owned {size : Nat} (hsize : 0 < size) {ids : List String} (hids : ids.Nodup) :
    (owned size s tenant ids).Perm (ownedInBatch s tenant ids) := by
  rw [← flatten_batches hsize ids] at hids
  have hperm : (owned size s tenant ids).Perm (ownedInBatch s tenant (batches size ids).flatten) :=
    perm_flatMap_ownedInBatch hids
  rwa [flatten_batches hsize ids] at hperm

/-- One statement finds the ids that are in workflows. -/
theorem filter_dependentInBatch (ids : List String) :
    ids.filter (dependentInBatch s ids).contains = ids.filter s.hasWorkflow := by
  refine List.filter_congr fun id hid => ?_
  rw [Bool.eq_iff_iff, List.contains_iff_mem, mem_dependentInBatch_iff, and_iff_right hid]

/-! ### Requests -/

section

variable {e : Engine} {today : Int} {size size' : Nat} (hsize : 0 < size) (hsize' : 0 < size')
  {request : Request}
include hsize hsize'

/-- **A step does not depend on the size of batches.** -/
theorem advance_size_irrel (p : Progress) :
    advance e today size tenant request p = advance e today size' tenant request p := by
  obtain ⟨stage, copy, passed, cascaded⟩ := p
  cases stage with
  | resolving => simp only [advance, resolve, filter_owned hsize, filter_owned hsize']
  | checking targets => simp only [advance, check, dependents_eq hsize, dependents_eq hsize']
  | cascading targets =>
      simp only [advance, release_eq, flatten_batches hsize, flatten_batches hsize']
  | deleting targets =>
      simp only [advance, delete_eq, flatten_batches hsize, flatten_batches hsize']
  | start => rfl
  | completed outcome => rfl
  | aborted fault => rfl

/-- **A request does not depend on the size of batches**, in any store: it goes through the same
stages, counts the same and leaves the same. -/
theorem finish_size_irrel :
    finish e today size tenant request s = finish e today size' tenant request s := by
  rw [finish, finish]
  generalize (⟨.start, s, [], none⟩ : Progress) = p
  induction Stage.start.remaining generalizing p with
  | zero => rfl
  | succ n ih => rw [advanceBy, advanceBy, advance_size_irrel hsize hsize', ih]

end

/-- **Batches do together what one statement does.**  The batches of ids that are all different lose
none of them and have none twice, however long the list is beside the size of a batch.  They find
the same ids of the organisation, each once, and the same ids in workflows.  They release as many
workflow states and leave the same store.  They delete as many contacts and leave the same store, or
they are refused, as the one statement is; and what is refused breaks a reference.  So every request
is worked off as with batches of the usual size. -/
theorem batches_as_one {size : Nat} (hsize : 0 < size) (s : Store) (tenant : String)
    {ids : List String} (hids : ids.Nodup) :
    ((batches size ids).flatten = ids ∧ (batches size ids).Pairwise List.Disjoint ∧
        (batches size ids).length = (ids.length + (size - 1)) / size ∧
        ∀ part ∈ batches size ids, 0 < part.length ∧ part.length ≤ size) ∧
      (owned size s tenant ids).Perm (ownedInBatch s tenant ids) ∧
      dependents size s ids = ids.filter (dependentInBatch s ids).contains ∧
      release tenant (0, s) (batches size ids) = releaseBatch tenant s ids ∧
      delete tenant (0, s) (batches size ids) = deleteBatch tenant s ids ∧
      (∀ report, deleteBatch tenant s ids = .error report →
        Fault.ofReport report = .constraint "the operation would orphan dependent records") ∧
      ∀ e today request,
        finish e today size tenant request s = finish e today batchSize tenant request s := by
  have hflatten := flatten_batches hsize ids
  refine ⟨⟨hflatten, ?_, length_batches hsize ids, fun part => length_of_mem_batches hsize⟩,
    perm_owned hsize hids, ?_, ?_, ?_, ?_, fun _ _ request => finish_size_irrel hsize (by decide)⟩
  · rw [← hflatten] at hids
    exact (List.nodup_flatten.1 hids).2
  · rw [dependents_eq hsize, filter_dependentInBatch]
  · rw [release_eq, hflatten, Nat.zero_add]
  · rw [delete_eq, hflatten]
    cases deleteBatch tenant s ids <;> simp [Except.map]
  · intro report hreport
    rw [deleteBatch_eq] at hreport
    split at hreport
    · obtain rfl := Except.error.inj hreport
      rfl
    · exact nomatch hreport

/-- In batches of two, five ids are one more than two batches take and four are as many.  One of the
five is in a workflow, so that they can be released but not deleted; the other organisation's
contact is passed over. -/
theorem batches_as_one_twoOffices :
    let s := Store.twoOffices
    let ids := ["a1", "zz", "a2", "g1", "a3"]
    let free := ["a3", "zz", "g1", "a1"]
    0 < 2 ∧ ids.Nodup ∧ free.Nodup ∧
      ((batches 2 ids).length = 3 ∧ (batches 2 free).length = 2) ∧
      (owned 2 s "acme" ids).Perm ["a1", "a2", "a3"] ∧
      dependents 2 s ids = ["a2"] ∧
      (release "acme" (0, s) (batches 2 ids)).1 = 1 ∧
      delete "acme" (0, s) (batches 2 ids) = .error inWorkflow ∧
      (delete "acme" (0, s) (batches 2 free)).map (·.1) = .ok 2 := by
  intro s ids free
  have hsize : 0 < 2 := Nat.two_pos
  have hids : ids.Nodup := by decide
  have hfree : free.Nodup := by decide
  obtain ⟨⟨-, -, hcount, -⟩, howned, hdependents, hrelease, hdelete, -⟩ :=
    batches_as_one hsize s "acme" hids
  obtain ⟨⟨-, -, hcount', -⟩, -, -, -, hdelete', -⟩ := batches_as_one hsize s "acme" hfree
  have hfound : ownedInBatch s "acme" ids = ["a1", "a2", "a3"] := by decide +kernel
  rw [hfound] at howned
  refine ⟨hsize, hids, hfree, ⟨hcount.trans (by decide), hcount'.trans (by decide)⟩, howned,
    ?_, ?_, ?_, ?_⟩
  · rw [hdependents]
    decide +kernel
  · rw [hrelease]
    decide +kernel
  · rw [hdelete]
    decide +kernel
  · rw [hdelete']
    decide +kernel

end ContactBook.Deletion
