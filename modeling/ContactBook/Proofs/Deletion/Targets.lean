/-
**What a request to delete comes down to.**

A request names contacts or asks for all that match, and in both cases it comes down to *targets*:
ids of contacts of the organisation, each of them once.  This module looks up the targets of a
request in a store without regard to stages and batches, and says in one equation for both kinds how
a request with these targets ends.  The kinds differ in two answers only: what is said if there are
no targets, and what is said if some of them are in workflows.

The other laws are about time.  If contacts are taken out of a store, whoever does it, then a
request has the targets in what is left that it had before and that are not gone: no contact becomes
a target because another one has gone.  And the day matters only to a request whose filter asks for
it.

Main definitions:

* `ContactBook.Deletion.Request.targets` — **the targets of a request**;
* `ContactBook.Deletion.Request.SameOn` — **when a request means the same on two days**;
* `ContactBook.Deletion.Request.idle`, `ContactBook.Deletion.Request.refusal` — the two answers in
  which the kinds differ.

Main results:

* `ContactBook.Deletion.run_of_targets`, `run_of_report` — **how a request ends**, in one equation;
* `ContactBook.Deletion.run_store` — whatever happens, the store that is left is the old one without
  some contacts of the organisation;
* `ContactBook.Deletion.run_forced` — a forced request takes its targets out;
* `ContactBook.Deletion.targets_without` — **targets that are gone are targets no more**, and the
  others stay;
* `ContactBook.Deletion.targets_eq_of_sameOn`, `run_eq_of_sameOn` — on two days on which a request
  means the same it has the same targets and ends in the same way.
-/

import ContactBook.Proofs.Deletion.Outcome
import ContactBook.Proofs.Query.Present

set_option autoImplicit false

namespace ContactBook

/-! ### Stores without some contacts -/

namespace Store

variable {s : Store}

theorem without_without (a b : List String) : (s.without a).without b = s.without (a ++ b) := by
  simp only [without, List.filter_filter, List.contains_append, Bool.not_or, Bool.and_comm]

/-- It does not matter in which order contacts are taken out, or how often. -/
theorem without_congr {a b : List String} (h : ∀ id, id ∈ a ↔ id ∈ b) :
    s.without a = s.without b := by
  have hcontains : ∀ id, a.contains id = b.contains id := by
    intro id
    rw [Bool.eq_iff_iff, List.contains_iff_mem, List.contains_iff_mem, h]
  simp only [without, hcontains]

theorem nodup_ids_without (hs : (s.contacts.map (·.id)).Nodup) (gone : List String) :
    ((s.without gone).contacts.map (·.id)).Nodup :=
  hs.sublist (List.filter_sublist.map _)

/-- Of contacts with different ids, as many go as ids are taken out. -/
theorem length_contacts_without (hs : (s.contacts.map (·.id)).Nodup) {gone : List String}
    (hgone : gone.Nodup) (hthere : ∀ id ∈ gone, s.hasContact id = true) :
    (s.without gone).contacts.length + gone.length = s.contacts.length := by
  have hperm : ((s.contacts.filter fun r => gone.contains r.id).map (·.id)).Perm gone := by
    refine (List.perm_ext_iff_of_nodup
      (hs.sublist (List.filter_sublist.map _)) hgone).2 fun id => ?_
    simp only [List.mem_map, List.mem_filter, List.contains_iff_mem]
    constructor
    · rintro ⟨r, ⟨-, hr⟩, rfl⟩
      exact hr
    · intro hid
      obtain ⟨r, hr, rfl⟩ := hasContact_iff.1 (hthere id hid)
      exact ⟨r, ⟨hr, hid⟩, rfl⟩
  have hcount : s.contacts.countP (fun r => gone.contains r.id) = gone.length := by
    rw [List.countP_eq_length_filter, ← hperm.length_eq, List.length_map]
  have hsplit := List.length_eq_countP_add_countP (fun r : Record => gone.contains r.id)
    (l := s.contacts)
  have hleft : (s.without gone).contacts.length =
      s.contacts.countP fun r => !gone.contains r.id := by
    rw [List.countP_eq_length_filter]
    rfl
  simp only [Bool.not_eq_true, ← Bool.not_eq_true'] at hsplit
  rw [hleft, hsplit, hcount, Nat.add_comm]
  simp

end Store

namespace Deletion

/-! ### Targets -/

/-- **The targets of a request in a store**: of the ids that it names those that belong to the
organisation, or the ids that the listing shows which it asks for.  It has none if the listing
fails. -/
def Request.targets (request : Request) (e : Engine) (today : Int) (s : Store)
    (tenant : String) : Except Report Targets :=
  match request.selection with
  | .explicit ids => .ok (namedTargets s tenant ids)
  | .matching filter term =>
    (s.listIds e today (Query.matching tenant filter term)).map fun ids => ⟨ids, 0⟩

/-- **When a request means the same on two days**: it names contacts, or its filter means the same.
-/
def Request.SameOn (request : Request) (s : Store) (day day' : Int) : Prop :=
  match request.selection with
  | .explicit _ => True
  | .matching filter _ => s.SameOn filter day day'

/-- What is answered to a request without targets. -/
def Request.idle (request : Request) : Except Fault Outcome :=
  if request.isMatching then .error nothingMatches else .ok ⟨0, 0⟩

/-- Why a request is refused if some of its targets are in workflows and it is not forced. -/
def Request.refusal (request : Request) (s : Store) (targets : Targets) : Fault :=
  if request.isMatching then .ofReport inWorkflow
  else .dependents (targets.ids.filter s.hasWorkflow)

variable {e : Engine} {today : Int} {s : Store} {tenant : String} {request : Request}
  {targets : Targets}

/-- The targets of a request for all matching contacts are the contacts of an answer. -/
theorem targets_matching_eq_ok_iff {filter : Option Filter} {term : Option String} {force : Bool} :
    Request.targets ⟨.matching filter term, force⟩ e today s tenant = .ok targets ↔
      ∃ records, (Query.matching tenant filter term).run e today s = .ok records ∧
        targets = ⟨records.map (·.id), 0⟩ := by
  rw [Request.targets, map_eq_ok_iff]
  constructor
  · rintro ⟨ids, hids, rfl⟩
    obtain ⟨records, hrun, rfl⟩ := Store.listIds_eq_ok_iff.1 hids
    exact ⟨records, hrun, rfl⟩
  · rintro ⟨records, hrun, rfl⟩
    exact ⟨_, Store.listIds_eq_ok_iff.2 ⟨records, hrun, rfl⟩, rfl⟩

/-- Settled ids belong to contacts of the store. -/
theorem Settled.hasContact {ids : List String} (h : Settled s tenant ids) :
    ∀ id ∈ ids, s.hasContact id = true := by
  intro id hid
  obtain ⟨r, hr, -, hrid⟩ := Store.owns_iff.1 (h.owned id hid)
  exact Store.hasContact_iff.2 ⟨r, hr, hrid⟩

section

variable (hs : (s.contacts.map (·.id)).Nodup)
include hs

/-- The store gets smaller by as many contacts as settled ids are taken out. -/
theorem Settled.length_contacts_without {ids : List String} (h : Settled s tenant ids) :
    (s.without ids).contacts.length + ids.length = s.contacts.length :=
  Store.length_contacts_without hs h.nodup h.hasContact

theorem settled_targets (h : request.targets e today s tenant = .ok targets) :
    Settled s tenant targets.ids := by
  obtain ⟨selection, force⟩ := request
  cases selection with
  | explicit ids =>
      obtain rfl := Except.ok.inj h
      exact settled_namedTargets s tenant ids
  | matching filter term =>
      obtain ⟨records, hrun, rfl⟩ := targets_matching_eq_ok_iff.1 h
      exact settled_of_run hs hrun

/-! ### How a request ends -/

/-- **How a request with targets ends.**  Nothing is done if there are none, or if some are in
workflows and the request is not forced; otherwise they are deleted, and they are counted. -/
theorem run_of_targets (h : request.targets e today s tenant = .ok targets) :
    run e today s tenant request =
      if targets.ids = [] then (request.idle, s)
      else if targets.ids.any s.hasWorkflow && !request.force then
        (.error (request.refusal s targets), s)
      else (.ok ⟨targets.ids.length, targets.invalid⟩, s.without targets.ids) := by
  obtain ⟨selection, force⟩ := request
  cases selection with
  | explicit ids =>
      obtain rfl := Except.ok.inj h
      exact run_explicit e today hs ids force
  | matching filter term =>
      obtain ⟨records, hrun, rfl⟩ := targets_matching_eq_ok_iff.1 h
      exact run_matching hs force hrun

omit hs in
/-- A request whose listing fails does nothing, and fails as the listing does. -/
theorem run_of_report {report : Report} (h : request.targets e today s tenant = .error report) :
    run e today s tenant request = (.error (.ofReport report), s) := by
  obtain ⟨selection, force⟩ := request
  cases selection with
  | explicit ids => exact nomatch h
  | matching filter term =>
      have hrun : (Query.matching tenant filter term).run e today s = .error report := by
        simp only [Request.targets, Store.listIds] at h
        cases hrun : (Query.matching tenant filter term).run e today s with
        | ok records =>
            rw [hrun] at h
            exact nomatch h
        | error report' =>
            rw [hrun] at h
            rw [Except.error.inj h]
      rw [run, finish_matching_of_error force hrun]
      rfl

/-- **Whatever a request does, it leaves the store without some contacts of the organisation**, and
without what refers to them. -/
theorem run_store (e : Engine) (today : Int) (tenant : String) (request : Request) :
    ∃ gone, Settled s tenant gone ∧ (run e today s tenant request).2 = s.without gone := by
  have hnone : Settled s tenant [] ∧ s = s.without [] :=
    ⟨⟨List.nodup_nil, fun _ h => absurd h List.not_mem_nil⟩, (Store.without_nil s).symm⟩
  cases htargets : request.targets e today s tenant with
  | error report =>
      rw [run_of_report htargets]
      exact ⟨[], hnone⟩
  | ok targets =>
      rw [run_of_targets hs htargets]
      split
      · exact ⟨[], hnone⟩
      · split
        · exact ⟨[], hnone⟩
        · exact ⟨_, settled_targets hs htargets, rfl⟩

/-- **A forced request takes its targets out of the store**, whatever they are. -/
theorem run_forced (hforce : request.force = true)
    (h : request.targets e today s tenant = .ok targets) :
    run e today s tenant request =
      (if targets.ids = [] then request.idle else .ok ⟨targets.ids.length, targets.invalid⟩,
        s.without targets.ids) := by
  rw [run_of_targets hs h, hforce]
  by_cases hnone : targets.ids = []
  · simp only [hnone, if_true, Store.without_nil]
  · simp only [hnone, if_false, Bool.not_true, Bool.and_false, Bool.false_eq_true]

/-! ### Targets that are gone -/

/-- **Targets that are gone are targets no more**, and the others stay targets. -/
theorem targets_without (h : request.targets e today s tenant = .ok targets) (gone : List String) :
    ∃ invalid, request.targets e today (s.without gone) tenant =
      .ok ⟨targets.ids.filter fun id => !gone.contains id, invalid⟩ := by
  obtain ⟨selection, force⟩ := request
  cases selection with
  | explicit ids =>
      obtain rfl := Except.ok.inj h
      have hleft : ids.eraseDups.filter ((s.without gone).owns tenant) =
          (ids.eraseDups.filter (s.owns tenant)).filter fun id => !gone.contains id := by
        rw [List.filter_filter]
        refine List.filter_congr fun id _ => ?_
        rw [Store.owns_without, Bool.and_comm]
      refine ⟨(namedTargets (s.without gone) tenant ids).invalid, ?_⟩
      simp only [Request.targets, namedTargets, hleft]
  | matching filter term =>
      obtain ⟨records, hrun, rfl⟩ := targets_matching_eq_ok_iff.1 h
      refine ⟨0, targets_matching_eq_ok_iff.2 ⟨_, Query.run_without hs hrun gone, ?_⟩⟩
      rw [List.filter_map]
      rfl

/-! ### Two days -/

omit hs in
/-- A request means the same on one day. -/
theorem Request.SameOn.refl (request : Request) (s : Store) (day : Int) :
    request.SameOn s day day := by
  obtain ⟨selection, force⟩ := request
  cases selection with
  | explicit ids => trivial
  | matching filter term => exact .inl rfl

omit hs in
/-- A request has the same targets on two days on which it means the same. -/
theorem targets_eq_of_sameOn {day day' : Int} (h : request.SameOn s day day') :
    request.targets e day s tenant = request.targets e day' s tenant := by
  obtain ⟨selection, force⟩ := request
  cases selection with
  | explicit ids => rfl
  | matching filter term =>
      simp only [Request.targets, Store.listIds, Query.run_matching_eq_of_sameOn h]

/-- **A request ends in the same way on two days on which it means the same.** -/
theorem run_eq_of_sameOn {day day' : Int} (h : request.SameOn s day day') :
    run e day s tenant request = run e day' s tenant request := by
  have htargets : request.targets e day s tenant = request.targets e day' s tenant :=
    targets_eq_of_sameOn h
  cases hday : request.targets e day s tenant with
  | error report => rw [run_of_report hday, run_of_report (htargets ▸ hday)]
  | ok targets => rw [run_of_targets hs hday, run_of_targets hs (htargets ▸ hday)]

end

end Deletion

end ContactBook
