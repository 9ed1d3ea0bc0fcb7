/-
**How a request to delete ends.**

A request runs through stages, and the last two of them work in batches on a copy of the store.
This module follows a request stage by stage and says in one equation for each kind of request how
it ends and what store it leaves.  All that is asked of the store is that no two contacts have one
id.

The stages hand on ids that are *settled*: they are all different, and the organisation has a
contact with each of them.  For settled ids the tests of the statements are simple: a contact
belongs to the organisation and has one of the ids exactly if it has one of the ids.

Main definitions:

* `ContactBook.Deletion.Settled` — the ids that the stages hand on;
* `ContactBook.Store.released` — a store without the workflow states of some contacts.

Main results:

* `ContactBook.Deletion.advance_cascading`, `advance_deleting` — what the two last stages do;
* `ContactBook.Deletion.run_explicit` — **a request that names contacts**, in one equation;
* `ContactBook.Deletion.run_matching` — **a request for all matching contacts**, in one equation.
-/

import ContactBook.Proofs.Deletion.Batches
import ContactBook.Proofs.Query.Meaning
import ContactBook.Proofs.Store.Integrity
import Mathlib.Data.List.Perm.Basic

set_option autoImplicit false

namespace ContactBook

/-- A store without the workflow states of the contacts of some ids. -/
def Store.released (s : Store) (ids : List String) : Store :=
  { s with workflowStates := s.workflowStates.filter fun w => !ids.contains w.contactId }

namespace Deletion

variable {s : Store} {tenant : String}

/-! ### Settled ids -/

/-- Ids that are all different and belong to contacts of an organisation. -/
structure Settled (s : Store) (tenant : String) (ids : List String) : Prop where
  nodup : ids.Nodup
  owned : ∀ id ∈ ids, s.owns tenant id = true

/-- What a statement finds of settled ids is all of them. -/
theorem Settled.contains_ownedInBatch {ids : List String} (h : Settled s tenant ids) (id : String) :
    (ownedInBatch s tenant ids).contains id = ids.contains id := by
  rw [Deletion.contains_ownedInBatch]
  cases hid : ids.contains id with
  | false => rfl
  | true => exact h.owned id (List.contains_iff_mem.1 hid)

section

variable (hs : (s.contacts.map (·.id)).Nodup)
include hs

/-- A contact that has a settled id belongs to the organisation. -/
theorem Settled.organizationId_eq {ids : List String} (h : Settled s tenant ids) {r : Record}
    (hr : r ∈ s.contacts) (hid : r.id ∈ ids) : r.organizationId = tenant := by
  obtain ⟨r', hr', ht, hid'⟩ := Store.owns_iff.1 (h.owned r.id hid)
  obtain rfl := List.inj_on_of_nodup_map hs hr' hr hid'
  exact ht

/-- So the statements need not ask for the organisation. -/
theorem Settled.isOwned_eq {ids : List String} (h : Settled s tenant ids) {r : Record}
    (hr : r ∈ s.contacts) : isOwned tenant ids r = ids.contains r.id := by
  rw [Bool.eq_iff_iff, isOwned_iff, List.contains_iff_mem]
  exact ⟨fun hr => hr.2, fun hid => ⟨h.organizationId_eq hs hr hid, hid⟩⟩

/-- There is one contact for each settled id. -/
theorem Settled.countP_isOwned {ids : List String} (h : Settled s tenant ids) :
    s.contacts.countP (isOwned tenant ids) = ids.length := by
  -- the ids of these contacts are the settled ones, in another order
  have hsub : ((s.contacts.filter (isOwned tenant ids)).map (·.id)).Nodup :=
    hs.sublist (List.filter_sublist.map _)
  have hperm : ((s.contacts.filter (isOwned tenant ids)).map (·.id)).Perm ids := by
    refine (List.perm_ext_iff_of_nodup hsub h.nodup).2 fun id => ?_
    change id ∈ ownedInBatch s tenant ids ↔ id ∈ ids
    rw [mem_ownedInBatch_iff]
    exact ⟨fun hid => hid.1, fun hid => ⟨hid, h.owned id hid⟩⟩
  rw [List.countP_eq_length_filter, ← hperm.length_eq, List.length_map]

/-- Settled ids of which none is in a workflow are deleted, each with its contact and its links; if
one is in a workflow, nothing is. -/
theorem Settled.deleteBatch_eq {ids : List String} (h : Settled s tenant ids) :
    deleteBatch tenant s ids =
      if ids.any s.hasWorkflow then .error inWorkflow else .ok (ids.length, s.without ids) := by
  have hheld : isHeld tenant s ids = ids.any s.hasWorkflow := by
    rw [Bool.eq_iff_iff]
    simp only [isHeld, h.contains_ownedInBatch, Store.hasWorkflow, List.any_eq_true,
      List.contains_iff_mem, beq_iff_eq]
    constructor
    · rintro ⟨w, hw, hid⟩
      exact ⟨w.contactId, hid, w, hw, rfl⟩
    · rintro ⟨id, hid, w, hw, rfl⟩
      exact ⟨w, hw, hid⟩
  rw [Deletion.deleteBatch_eq, hheld]
  split
  · rfl
  next hfree =>
    rw [h.countP_isOwned hs, Except.ok.injEq, Prod.mk.injEq]
    refine ⟨rfl, ?_⟩
    simp only [remainder, Store.without, h.contains_ownedInBatch, Store.mk.injEq, true_and]
    refine ⟨List.filter_congr fun r hr => by rw [h.isOwned_eq hs hr], ?_⟩
    refine (List.filter_eq_self.2 fun w hw => ?_).symm
    -- no workflow state would refer to what is deleted, so none is lost
    rw [Bool.not_eq_true', Bool.eq_false_iff]
    intro hid
    exact hfree (List.any_eq_true.2 ⟨w.contactId, List.contains_iff_mem.1 hid,
      List.any_eq_true.2 ⟨w, hw, beq_self_eq_true _⟩⟩)

end

/-- Settled ids are released, each with its workflow states. -/
theorem Settled.releaseBatch_eq {ids : List String} (h : Settled s tenant ids) :
    releaseBatch tenant s ids =
      (s.workflowStates.countP fun w => ids.contains w.contactId, s.released ids) := by
  simp only [releaseBatch, h.contains_ownedInBatch, Store.released]

/-- Settled ids stay settled when workflow states are deleted. -/
theorem Settled.released {ids : List String} (h : Settled s tenant ids) :
    Settled (s.released ids) tenant ids := ⟨h.nodup, h.owned⟩

/-- What was released is in no workflow. -/
theorem hasWorkflow_released {ids : List String} :
    ids.any (s.released ids).hasWorkflow = false := by
  rw [List.any_eq_false]
  intro id hid hw
  obtain ⟨w, hw, hwid⟩ := List.any_eq_true.1 hw
  obtain ⟨-, hkept⟩ := List.mem_filter.1 hw
  rw [beq_iff_eq.1 hwid, List.contains_iff_mem.2 hid] at hkept
  exact Bool.false_ne_true hkept

/-- To delete contacts that were released before leaves what deleting them leaves. -/
theorem without_released (ids : List String) : (s.released ids).without ids = s.without ids := by
  simp only [Store.without, Store.released, List.filter_filter, Bool.and_self]

/-! ### The last stages -/

section

variable {e : Engine} {today : Int} {size : Nat} {request : Request} {targets : Targets}

/-- **The stage that deletes workflow states**: it deletes those of the targets, and goes on. -/
theorem advance_cascading (hsize : 0 < size) (h : Settled s tenant targets.ids)
    (passed : List Stage) (cascaded : Option Nat) :
    advance e today size tenant request ⟨.cascading targets, s, passed, cascaded⟩ =
      ⟨.deleting targets, s.released targets.ids, passed ++ [.cascading targets],
        some (s.workflowStates.countP fun w => targets.ids.contains w.contactId)⟩ := by
  simp only [advance, release_eq, flatten_batches hsize, h.releaseBatch_eq, Nat.zero_add]

/-- **The stage that deletes contacts**: all targets are deleted, or it meets one in a workflow. -/
theorem advance_deleting (hsize : 0 < size) (hs : (s.contacts.map (·.id)).Nodup)
    (h : Settled s tenant targets.ids) (passed : List Stage) (cascaded : Option Nat) :
    advance e today size tenant request ⟨.deleting targets, s, passed, cascaded⟩ =
      if targets.ids.any s.hasWorkflow then
        ⟨.aborted (.ofReport inWorkflow), s, passed ++ [.deleting targets], cascaded⟩
      else
        ⟨.completed ⟨targets.ids.length, targets.invalid⟩, s.without targets.ids,
          passed ++ [.deleting targets], cascaded⟩ := by
  simp only [advance, delete_eq, flatten_batches hsize, h.deleteBatch_eq hs]
  cases targets.ids.any s.hasWorkflow with
  | true => rfl
  | false => simp [Except.map]

/-- A request that has ended stays as it is. -/
theorem advanceBy_of_isFinal {p : Progress} (h : p.stage.isFinal = true) (n : Nat) :
    advanceBy e today size tenant request n p = p := by
  have hstep : advance e today size tenant request p = p := by
    obtain ⟨stage, store, passed, cascaded⟩ := p
    cases stage with
    | completed outcome => rfl
    | aborted fault => rfl
    | _ => exact absurd h (by simp [Stage.isFinal, Stage.remaining])
  induction n with
  | zero => rfl
  | succ n ih => rw [advanceBy, hstep, ih]

/-- The first two stages look up what the request means. -/
theorem finish_eq :
    finish e today size tenant request s = advanceBy e today size tenant request 3
      ⟨resolve e today size tenant request s, s, [.start, .resolving], none⟩ := rfl

/-- The third stage decides what happens to contacts in workflows. -/
theorem advanceBy_checking (n : Nat) (passed : List Stage) :
    advanceBy e today size tenant request (n + 1) ⟨.checking targets, s, passed, none⟩ =
      advanceBy e today size tenant request n
        ⟨check size request s targets, s, passed ++ [.checking targets], none⟩ := rfl

/-- A request whose targets are released and then deleted completes. -/
theorem advanceBy_cascading (hsize : 0 < size) (hs : (s.contacts.map (·.id)).Nodup)
    (h : Settled s tenant targets.ids) (passed : List Stage) (n : Nat) :
    advanceBy e today size tenant request (n + 2) ⟨.cascading targets, s, passed, none⟩ =
      ⟨.completed ⟨targets.ids.length, targets.invalid⟩, s.without targets.ids,
        passed ++ [.cascading targets, .deleting targets],
        some (s.workflowStates.countP fun w => targets.ids.contains w.contactId)⟩ := by
  have hreleased : ((s.released targets.ids).contacts.map (·.id)).Nodup := hs
  rw [advanceBy, advance_cascading hsize h, advanceBy, advance_deleting hsize hreleased h.released,
    hasWorkflow_released, if_neg Bool.false_ne_true, without_released, advanceBy_of_isFinal rfl,
    List.append_assoc]
  rfl

/-- A request whose targets are deleted at once completes, or is aborted if one of them is in a
workflow. -/
theorem advanceBy_deleting (hsize : 0 < size) (hs : (s.contacts.map (·.id)).Nodup)
    (h : Settled s tenant targets.ids) (passed : List Stage) (n : Nat) :
    advanceBy e today size tenant request (n + 1) ⟨.deleting targets, s, passed, none⟩ =
      if targets.ids.any s.hasWorkflow then
        ⟨.aborted (.ofReport inWorkflow), s, passed ++ [.deleting targets], none⟩
      else
        ⟨.completed ⟨targets.ids.length, targets.invalid⟩, s.without targets.ids,
          passed ++ [.deleting targets], none⟩ := by
  rw [advanceBy, advance_deleting hsize hs h]
  split <;> exact advanceBy_of_isFinal rfl n

end

/-! ### Requests that name contacts -/

/-- The targets of a request that names contacts: the ids that belong to the organisation, each once
and in the order of its first mention. -/
def namedTargets (s : Store) (tenant : String) (ids : List String) : Targets :=
  ⟨ids.eraseDups.filter (s.owns tenant),
    ids.eraseDups.length - (ids.eraseDups.filter (s.owns tenant)).length⟩

theorem settled_namedTargets (s : Store) (tenant : String) (ids : List String) :
    Settled s tenant (namedTargets s tenant ids).ids :=
  ⟨(nodup_eraseDups ids).filter _, fun _ hid => (List.mem_filter.1 hid).2⟩

section

variable {e : Engine} {today : Int} {size : Nat} (hsize : 0 < size) (ids : List String)
  (force : Bool)
include hsize

theorem resolve_explicit :
    resolve e today size tenant ⟨.explicit ids, force⟩ s =
      if (namedTargets s tenant ids).ids = [] then .completed ⟨0, 0⟩
      else .checking (namedTargets s tenant ids) := by
  simp only [resolve, filter_owned hsize, ← List.isEmpty_iff]
  rfl

theorem check_explicit (targets : Targets) :
    check size ⟨.explicit ids, force⟩ s targets =
      if targets.ids.any s.hasWorkflow then
        if force then .cascading targets
        else .aborted (.dependents (targets.ids.filter s.hasWorkflow))
      else .deleting targets := by
  simp only [check, Request.isMatching, Bool.false_eq_true, if_false, dependents_eq hsize]
  -- the stage asks for the list of ids in workflows, not for a test
  cases hdep : targets.ids.filter s.hasWorkflow with
  | nil =>
      have hfree : targets.ids.any s.hasWorkflow = false :=
        List.any_eq_false.2 (List.filter_eq_nil_iff.1 hdep)
      simp only [hfree, Bool.false_eq_true, if_false]
  | cons id rest =>
      have hid : id ∈ targets.ids.filter s.hasWorkflow := by rw [hdep]; exact List.mem_cons_self
      have hheld : targets.ids.any s.hasWorkflow = true :=
        List.any_eq_true.2 ⟨id, List.mem_filter.1 hid⟩
      simp only [hheld, if_true]

/-- **A request that names contacts, to its end.**  Nothing is done if the organisation has none of
them; contacts in workflows are released first if the request is forced, and stop it otherwise. -/
theorem finish_explicit (hs : (s.contacts.map (·.id)).Nodup) :
    finish e today size tenant ⟨.explicit ids, force⟩ s =
      let targets := namedTargets s tenant ids
      if targets.ids = [] then ⟨.completed ⟨0, 0⟩, s, [.start, .resolving], none⟩
      else if targets.ids.any s.hasWorkflow then
        if force then
          ⟨.completed ⟨targets.ids.length, targets.invalid⟩, s.without targets.ids,
            [.start, .resolving, .checking targets, .cascading targets, .deleting targets],
            some (s.workflowStates.countP fun w => targets.ids.contains w.contactId)⟩
        else
          ⟨.aborted (.dependents (targets.ids.filter s.hasWorkflow)), s,
            [.start, .resolving, .checking targets], none⟩
      else
        ⟨.completed ⟨targets.ids.length, targets.invalid⟩, s.without targets.ids,
          [.start, .resolving, .checking targets, .deleting targets], none⟩ := by
  have hsettled := settled_namedTargets s tenant ids
  rw [finish_eq, resolve_explicit hsize]
  -- from here on it does not matter where the targets come from
  generalize namedTargets s tenant ids = targets at hsettled ⊢
  simp only
  by_cases hnone : targets.ids = []
  · rw [if_pos hnone, if_pos hnone]
    exact advanceBy_of_isFinal rfl 3
  · rw [if_neg hnone, if_neg hnone, advanceBy_checking, check_explicit hsize]
    cases hheld : targets.ids.any s.hasWorkflow with
    | true =>
        cases force with
        | true => exact advanceBy_cascading hsize hs hsettled _ 0
        | false => exact advanceBy_of_isFinal rfl 2
    | false =>
        simp only [Bool.false_eq_true, if_false]
        rw [advanceBy_deleting hsize hs hsettled, hheld, if_neg Bool.false_ne_true]
        rfl

end

/-- **A request that names contacts**: how it ends, and what store it leaves. -/
theorem run_explicit (e : Engine) (today : Int) (hs : (s.contacts.map (·.id)).Nodup)
    (ids : List String) (force : Bool) :
    run e today s tenant ⟨.explicit ids, force⟩ =
      let targets := namedTargets s tenant ids
      if targets.ids = [] then (.ok ⟨0, 0⟩, s)
      else if targets.ids.any s.hasWorkflow && !force then
        (.error (.dependents (targets.ids.filter s.hasWorkflow)), s)
      else (.ok ⟨targets.ids.length, targets.invalid⟩, s.without targets.ids) := by
  simp only [run, finish_explicit (show 0 < batchSize by decide) ids force hs]
  generalize namedTargets s tenant ids = targets
  by_cases hnone : targets.ids = []
  · simp only [hnone, if_true]
    rfl
  · simp only [hnone, if_false]
    cases targets.ids.any s.hasWorkflow <;> cases force <;> rfl

/-! ### Requests for all matching contacts -/

section

variable {e : Engine} {today : Int} {filter : Option Filter} {term : Option String}
  {records : List Record}

/-- The contacts of an answer are settled: they are different and all of the organisation. -/
theorem settled_of_run (hs : (s.contacts.map (·.id)).Nodup)
    (h : (Query.matching tenant filter term).run e today s = .ok records) :
    Settled s tenant (records.map (·.id)) := by
  have hmem : ∀ r ∈ records, r ∈ s.contacts ∧ r.organizationId = tenant := by
    intro r hr
    obtain ⟨hr, hsel⟩ := (Query.mem_of_run_eq_ok h).1 hr
    exact ⟨hr, (Query.selects_matching_iff.1 hsel).tenant_eq⟩
  refine ⟨?_, ?_⟩
  · have hperm := Query.perm_of_run_eq_ok h
    refine (hperm.map (·.id)).nodup_iff.2 ?_
    exact hs.sublist (List.filter_sublist.map _)
  · intro id hid
    obtain ⟨r, hr, rfl⟩ := List.mem_map.1 hid
    exact Store.owns_iff.2 ⟨r, (hmem r hr).1, (hmem r hr).2, rfl⟩

/-- The fault of a request for all matching contacts of which there are none. -/
def nothingMatches : Fault := .notFound "no contacts match the current filter"

/-- **A request for all matching contacts, to its end**, if the query fails. -/
theorem finish_matching_of_error {size : Nat} {report : Report} (force : Bool)
    (h : (Query.matching tenant filter term).run e today s = .error report) :
    finish e today size tenant ⟨.matching filter term, force⟩ s =
      ⟨.aborted (.ofReport report), s, [.start, .resolving], none⟩ := by
  have hresolve : resolve e today size tenant ⟨.matching filter term, force⟩ s =
      .aborted (.ofReport report) := by simp only [resolve, h]
  rw [finish_eq, hresolve]
  exact advanceBy_of_isFinal rfl 3

/-- **A request for all matching contacts, to its end**, if the query is answered.  It is not
checked whether they are in workflows: forced, it releases them all, and otherwise it fails on the
first that is. -/
theorem finish_matching {size : Nat} (hsize : 0 < size) (hs : (s.contacts.map (·.id)).Nodup)
    (force : Bool) (h : (Query.matching tenant filter term).run e today s = .ok records) :
    finish e today size tenant ⟨.matching filter term, force⟩ s =
      let targets : Targets := ⟨records.map (·.id), 0⟩
      if targets.ids = [] then ⟨.aborted nothingMatches, s, [.start, .resolving], none⟩
      else if force then
        ⟨.completed ⟨targets.ids.length, 0⟩, s.without targets.ids,
          [.start, .resolving, .checking targets, .cascading targets, .deleting targets],
          some (s.workflowStates.countP fun w => targets.ids.contains w.contactId)⟩
      else if targets.ids.any s.hasWorkflow then
        ⟨.aborted (.ofReport inWorkflow), s,
          [.start, .resolving, .checking targets, .deleting targets], none⟩
      else
        ⟨.completed ⟨targets.ids.length, 0⟩, s.without targets.ids,
          [.start, .resolving, .checking targets, .deleting targets], none⟩ := by
  have hsettled := settled_of_run hs h
  rw [finish_eq]
  cases records with
  | nil =>
      have hresolve : resolve e today size tenant ⟨.matching filter term, force⟩ s =
          .aborted nothingMatches := by simp only [resolve, h, nothingMatches]
      rw [hresolve]
      exact advanceBy_of_isFinal rfl 3
  | cons r records =>
      have hresolve : resolve e today size tenant ⟨.matching filter term, force⟩ s =
          .checking ⟨(r :: records).map (·.id), 0⟩ := by simp only [resolve, h]
      rw [hresolve]
      simp only [List.map_cons, reduceCtorEq, if_false] at hsettled ⊢
      rw [advanceBy_checking]
      cases force with
      | true => exact advanceBy_cascading hsize hs hsettled _ 0
      | false => exact advanceBy_deleting hsize hs hsettled _ 1

/-- **A request for all matching contacts**: how it ends, and what store it leaves. -/
theorem run_matching (hs : (s.contacts.map (·.id)).Nodup) (force : Bool)
    (h : (Query.matching tenant filter term).run e today s = .ok records) :
    run e today s tenant ⟨.matching filter term, force⟩ =
      let ids := records.map (·.id)
      if ids = [] then (.error nothingMatches, s)
      else if ids.any s.hasWorkflow && !force then (.error (.ofReport inWorkflow), s)
      else (.ok ⟨ids.length, 0⟩, s.without ids) := by
  simp only [run, finish_matching (show 0 < batchSize by decide) hs force h]
  generalize records.map (·.id) = ids
  by_cases hnone : ids = []
  · simp only [hnone, if_true]
    rfl
  · simp only [hnone, if_false]
    cases ids.any s.hasWorkflow <;> cases force <;> rfl

end

end Deletion

end ContactBook
