/-
**Deleting contacts by name.**

A request that names contacts is worked off in five passes over lists of ids: repetitions are
dropped, the ids of the organisation are looked up, those in workflows are found, their workflow
states are deleted, and then the contacts.  This module says what comes of it for the user of a
book, for any list of ids and any reachable store.

Main result:

* `ContactBook.Book.delete_explicit` — **the whole specification of a request that names contacts**.
-/

import ContactBook.Proofs.Store.Reachable

set_option autoImplicit false

namespace ContactBook.Book

open Deletion (Outcome)

/-- **The specification of a request that names contacts.**  Named once each and in the order of
their first mention, some ids belong to contacts of the organisation.  If none does, nothing
happens.  If some of these contacts are in workflows and the request is not forced, it is refused
with exactly their ids, and nothing changes.  Otherwise exactly these contacts are deleted with all
that refers to them, and they are counted, as are the other ids.  No request of this kind runs into
a workflow state that it has overlooked. -/
theorem delete_explicit {s : Store} (hs : s.Reachable) (policy : Policy) (engine : Engine)
    (today : Int) (tenant : String) (ids : List String) (force : Bool) :
    let book : Book := { policy := policy, store := s, engine := engine }
    let named := ids.eraseDups
    let owned := named.filter (s.owns tenant)
    book.delete today tenant ⟨.explicit ids, force⟩ =
        (if owned = [] then (.ok ⟨0, 0⟩, book)
        else if owned.any s.hasWorkflow && !force then
          (.error (.dependents (owned.filter s.hasWorkflow)), book)
        else (.ok ⟨owned.length, named.length - owned.length⟩,
          { book with store := s.without owned })) ∧
      owned.length ≤ named.length ∧
      (∀ r ∈ s.contacts, r.id ∈ owned → r.organizationId = tenant) ∧
      ∀ reason,
        (book.delete today tenant ⟨.explicit ids, force⟩).1 ≠ .error (.constraint reason) := by
  intro book named owned
  have hids := hs.integrity.contact_ids
  have hrun : book.delete today tenant ⟨.explicit ids, force⟩ =
      if owned = [] then (.ok ⟨0, 0⟩, book)
      else if owned.any s.hasWorkflow && !force then
        (.error (.dependents (owned.filter s.hasWorkflow)), book)
      else (.ok ⟨owned.length, named.length - owned.length⟩,
        { book with store := s.without owned }) := by
    have hrun : Deletion.run engine today s tenant ⟨.explicit ids, force⟩ =
        if owned = [] then (.ok ⟨0, 0⟩, s)
        else if owned.any s.hasWorkflow && !force then
          (.error (.dependents (owned.filter s.hasWorkflow)), s)
        else (.ok ⟨owned.length, named.length - owned.length⟩, s.without owned) :=
      Deletion.run_explicit engine today hids ids force
    rw [delete_eq, if_neg Bool.false_ne_true, hrun]
    by_cases hnone : owned = []
    · simp only [hnone, if_true]
      rfl
    · simp only [hnone, if_false]
      cases owned.any s.hasWorkflow && !force <;> rfl
  refine ⟨hrun, List.length_filter_le _ _, ?_, ?_⟩
  · intro r hr hid
    exact (Deletion.settled_namedTargets s tenant ids).organizationId_eq hids hr hid
  · intro reason
    rw [hrun]
    split
    · exact nofun
    · split <;> exact nofun

/-- A request for two contacts of which one is in a workflow is refused with its id, and carried out
when it is forced; the id of another organisation's contact and an unknown one count as invalid. -/
theorem delete_explicit_twoOffices :
    Store.twoOffices.Reachable ∧
      let book : Book := { policy := .strict, store := Store.twoOffices }
      let ids := ["a2", "g1", "a1", "a2", "zz"]
      book.delete newYear "acme" ⟨.explicit ids, false⟩ = (.error (.dependents ["a2"]), book) ∧
        book.delete newYear "acme" ⟨.explicit ids, true⟩ =
          (.ok ⟨2, 2⟩, { book with store := Store.twoOffices.without ["a2", "a1"] }) := by
  refine ⟨Store.reachable_twoOffices, ?_⟩
  intro book ids
  have howned : ids.eraseDups.filter (Store.twoOffices.owns "acme") = ["a2", "a1"] := by
    decide +kernel
  have hdep : ["a2", "a1"].filter Store.twoOffices.hasWorkflow = ["a2"] := by decide +kernel
  have hheld : ["a2", "a1"].any Store.twoOffices.hasWorkflow = true := by decide +kernel
  have hnamed : ids.eraseDups.length = 4 := by decide +kernel
  have hspec := fun force =>
    (delete_explicit Store.reachable_twoOffices .strict .builtIn newYear "acme" ids force).1
  simp only [howned, hdep, hheld, hnamed] at hspec
  exact ⟨hspec false, hspec true⟩

end ContactBook.Book
