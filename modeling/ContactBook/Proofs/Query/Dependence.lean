/-
**What an answer depends on.**

A query looks at a contact, at the names of the tags that are linked to it, and at nothing else.  So
what it says of a contact, and whether it fails on it, is the same in two stores in which the
contact has tags with the same names, in whatever order.  The latter rests on what can be relied on
of any engine.  And an answer leaves no choice: contacts are put in the order of listings, in which
only contacts with one id come both before and after each other.

It follows that taking contacts out of a store takes them out of every answer and does nothing else:
the answer does not fail if it did not fail before, and the contacts that stay keep their order.

Main results:

* `ContactBook.Query.selects_of_perm`, `trips_of_perm` — what the names of tags decide;
* `ContactBook.Query.run_of_not_hasPatterns` — a query without patterns is answered, if it is not
  nested too deep;
* `ContactBook.Query.organizationId_of_selects` — a query selects contacts of its organisation
  alone;
* `ContactBook.Query.eq_of_perm_of_listed` — the order of listings leaves no choice;
* `ContactBook.Query.run_without` — **answers lose the contacts that are taken out**.
-/

import ContactBook.Proofs.Deletion.Batches
import ContactBook.Proofs.Query.Meaning
import ContactBook.Proofs.Store.Integrity
import Mathlib.Data.List.Perm.Basic
import Mathlib.Data.String.Basic

set_option autoImplicit false

namespace ContactBook

/-! ### What the names of tags decide -/

namespace Query

variable {q : Query} {e : Engine} {today : Int} {s s' : Store} {r : Record}

section

variable (h : (s.tagNames r.id).Perm (s'.tagNames r.id))
include h

/-- What a test says of a contact depends on the names of its tags, whatever their order. -/
theorem truth_test_of_perm (t : Test) : t.truth today q s r = t.truth today q s' r := by
  -- a test asks only whether some name passes
  have hany : ∀ p : String → Bool, (s.tagNames r.id).any p = (s'.tagNames r.id).any p := by
    intro p
    rw [Bool.eq_iff_iff, List.any_eq_true, List.any_eq_true]
    simp only [h.mem_iff]
  cases ht : t.operand <;> simp only [Test.truth, ht, hany]

theorem selects_of_perm : q.selects today s r = q.selects today s' r := by
  have htest : Test.truth today q s r = Test.truth today q s' r := funext (truth_test_of_perm h)
  have hjunction : Junction.truth today q s r = Junction.truth today q s' r := by
    funext j
    simp only [Junction.truth, htest]
  simp only [selects, truth, hjunction]

/-- Whether answering a query fails at a contact depends on them in the same way. -/
theorem trips_of_perm : q.trips e today s r = q.trips e today s' r := by
  rw [trips, trips, e.trips_congr h fun _ _ t _ => truth_test_of_perm h t]

end

/-! ### Queries without patterns -/

/-- **A query without patterns is answered**, if it is not nested too deep. -/
theorem run_of_not_hasPatterns (hpatterns : q.hasPatterns = false) (hdepth : q.depth ≤ maxDepth) :
    q.run e today s = .ok ((s.contacts.filter (q.selects today s)).mergeSort listedBefore) := by
  refine run_eq_ok_iff.2 ⟨e.refusal?_eq_none hpatterns hdepth, fun r _ => ?_, rfl⟩
  rw [trips, e.trips_eq_false today s r hpatterns, Bool.and_false]

/-! ### The organisation of a query -/

/-- A further group leaves a query its organisation. -/
theorem tenant_andGroup {g : Group} (hq : q.InRange) : (q.andGroup g).tenant = q.tenant := by
  by_cases hg : g.junction.tests = []
  · rw [andGroup_of_isEmpty hg]
  · rw [andGroup_of_ne_nil hg]
    exact value_append_left hq.tenant_lt

theorem tenant_matching (tenant : String) (filter : Option Filter) (term : Option String) :
    (matching tenant filter term).tenant = tenant := by
  have hcompile : (compile tenant filter).tenant = tenant := by
    cases filter with
    | none => rfl
    | some f => exact tenant_andGroup (inRange_ofTenant tenant)
  cases term with
  | none => exact hcompile
  | some term =>
      rw [matching, search]
      cases Group.ofSearch? term with
      | none => exact hcompile
      | some g => exact (tenant_andGroup (inRange_compile tenant filter)).trans hcompile

theorem organizationId_of_selects (h : q.selects today s r = true) :
    r.organizationId = q.tenant := by
  rw [selects, truth, Truth.holds_and, Bool.and_eq_true, Truth.holds_ofBool] at h
  exact beq_iff_eq.1 h.1

theorem organizationId_of_trips (h : q.trips e today s r = true) : r.organizationId = q.tenant := by
  rw [trips, Bool.and_eq_true] at h
  exact beq_iff_eq.1 h.1

/-! ### The order of listings -/

theorem listedBefore_trans (a b c : Record) (hab : listedBefore a b = true)
    (hbc : listedBefore b c = true) : listedBefore a c = true := by
  unfold listedBefore at *
  split_ifs at * with h₁ h₂ h₃ <;> simp only [decide_eq_true_eq] at * <;> grind

theorem listedBefore_total (a b : Record) : (listedBefore a b || listedBefore b a) = true := by
  unfold listedBefore
  by_cases h : a.createdAt = b.createdAt
  · simpa [h] using le_total a.id b.id
  · have hne : b.createdAt ≠ a.createdAt := fun h' => h h'.symm
    simpa [h, hne] using (lt_or_gt_of_ne hne)

/-- Only contacts with one id come both before and after each other. -/
theorem id_eq_of_listedBefore {a b : Record} (hab : listedBefore a b = true)
    (hba : listedBefore b a = true) : a.id = b.id := by
  unfold listedBefore at hab hba
  by_cases h : a.createdAt = b.createdAt
  · simp only [h, if_true, decide_eq_true_eq] at hab hba
    exact le_antisymm hab hba
  · have hne : b.createdAt ≠ a.createdAt := fun h' => h h'.symm
    simp only [h, hne, if_false, decide_eq_true_eq] at hab hba
    exact absurd hab (not_lt_of_gt hba)

theorem pairwise_listed (as : List Record) :
    (as.mergeSort listedBefore).Pairwise fun a b => listedBefore a b = true :=
  List.pairwise_mergeSort listedBefore_trans listedBefore_total as

theorem nodup_ids_listed {as : List Record} (h : (as.map (·.id)).Nodup) :
    ((as.mergeSort listedBefore).map (·.id)).Nodup :=
  ((List.mergeSort_perm as listedBefore).map (·.id)).nodup_iff.2 h

/-- The contacts of an answer are in the order of listings. -/
theorem pairwise_of_run_eq_ok {records : List Record} (h : q.run e today s = .ok records) :
    records.Pairwise fun a b => listedBefore a b = true := by
  obtain ⟨-, -, rfl⟩ := run_eq_ok_iff.1 h
  exact pairwise_listed _

/-- No contact comes twice in an answer. -/
theorem nodup_ids_of_run_eq_ok (hids : (s.contacts.map (·.id)).Nodup) {records : List Record}
    (h : q.run e today s = .ok records) : (records.map (·.id)).Nodup :=
  ((perm_of_run_eq_ok h).map (·.id)).nodup_iff.2 (hids.sublist (List.filter_sublist.map _))

/-- **The order of listings leaves no choice**: contacts with ids of their own can be put into it in
one way only. -/
theorem eq_of_perm_of_listed {as bs : List Record} (hids : (as.map (·.id)).Nodup)
    (ha : as.Pairwise fun a b => listedBefore a b = true)
    (hb : bs.Pairwise fun a b => listedBefore a b = true) (h : as.Perm bs) : as = bs := by
  refine List.Perm.eq_of_pairwise ?_ ha hb h
  -- contacts that come before each other have one id, and so they are one contact
  intro a b ha hb hab hba
  exact List.inj_on_of_nodup_map hids ha (h.mem_iff.2 hb) (id_eq_of_listedBefore hab hba)

end Query

/-- Sorted texts ascend. -/
theorem Store.pairwise_sorted (texts : List String) : (Store.sorted texts).Pairwise (· ≤ ·) := by
  have htrans : ∀ a b c : String, decide (a ≤ b) = true → decide (b ≤ c) = true →
      decide (a ≤ c) = true := by
    simp only [decide_eq_true_eq]
    exact fun a b c => le_trans
  have htotal : ∀ a b : String, (decide (a ≤ b) || decide (b ≤ a)) = true := by
    simp only [Bool.or_eq_true, decide_eq_true_eq]
    exact le_total
  exact (List.pairwise_mergeSort htrans htotal texts).imp of_decide_eq_true

theorem Store.sorted_perm (texts : List String) : (Store.sorted texts).Perm texts :=
  List.mergeSort_perm texts _

/-- Texts in ascending order are the same whatever their order was before. -/
theorem Store.sorted_eq_of_perm {as bs : List String} (h : as.Perm bs) :
    Store.sorted as = Store.sorted bs :=
  List.Perm.eq_of_pairwise (fun _ _ _ _ => le_antisymm) (pairwise_sorted as) (pairwise_sorted bs)
    ((sorted_perm as).trans (h.trans (sorted_perm bs).symm))

/-! ### Stores without some contacts -/

namespace Store

variable {s : Store} {gone : List String}

/-- Of what is left, an organisation has the ids that it had and that are not gone. -/
theorem owns_without (tenant id : String) :
    (s.without gone).owns tenant id = (s.owns tenant id && !gone.contains id) := by
  rw [Bool.eq_iff_iff, Bool.and_eq_true, owns_iff, owns_iff]
  simp only [without, List.mem_filter]
  constructor
  · rintro ⟨r, ⟨hr, hkept⟩, ht, rfl⟩
    exact ⟨⟨r, hr, ht, rfl⟩, hkept⟩
  · rintro ⟨⟨r, hr, ht, rfl⟩, hkept⟩
    exact ⟨r, ⟨hr, hkept⟩, ht, rfl⟩

/-- A contact that stays keeps its tags. -/
theorem tagNames_without {id : String} (h : id ∉ gone) :
    (s.without gone).tagNames id = s.tagNames id := by
  have hlinks : ((s.without gone).links.filter fun l => l.contactId == id) =
      s.links.filter fun l => l.contactId == id := by
    rw [without, List.filter_filter]
    refine List.filter_congr fun l _ => ?_
    by_cases hl : l.contactId = id <;> simp [hl, h]
  rw [tagNames, tagNames, hlinks]
  rfl

end Store

namespace Query

variable {q : Query} {e : Engine} {today : Int} {s : Store} {gone : List String}

theorem selects_without {r : Record} (h : r.id ∉ gone) :
    q.selects today (s.without gone) r = q.selects today s r :=
  selects_of_perm (.of_eq (Store.tagNames_without h))

theorem trips_without {r : Record} (h : r.id ∉ gone) :
    q.trips e today (s.without gone) r = q.trips e today s r :=
  trips_of_perm (.of_eq (Store.tagNames_without h))

/-- **Answers lose the contacts that are taken out** of the store, and nothing else changes: the
others are in the answer as before and keep their order. -/
theorem run_without (hs : (s.contacts.map (·.id)).Nodup) {records : List Record}
    (h : q.run e today s = .ok records) (gone : List String) :
    q.run e today (s.without gone) = .ok (records.filter fun r => !gone.contains r.id) := by
  obtain ⟨hasked, hpasses, rfl⟩ := run_eq_ok_iff.1 h
  have hstays : ∀ r ∈ (s.without gone).contacts, r ∈ s.contacts ∧ r.id ∉ gone := by
    intro r hr
    obtain ⟨hr, hkept⟩ := List.mem_filter.1 hr
    exact ⟨hr, by simpa using hkept⟩
  have hselected : (s.without gone).contacts.filter (q.selects today (s.without gone)) =
      (s.contacts.filter (q.selects today s)).filter fun r => !gone.contains r.id := by
    rw [List.filter_congr fun r hr => selects_without (hstays r hr).2, Store.without,
      List.filter_filter, List.filter_filter]
    simp only [Bool.and_comm]
  have hperm := (List.mergeSort_perm (s.contacts.filter (q.selects today s)) listedBefore).filter
    fun r => !gone.contains r.id
  refine run_eq_ok_iff.2 ⟨hasked, fun r hr => ?passes, ?answer⟩
  case passes =>
    obtain ⟨hr, hkept⟩ := hstays r hr
    rw [trips_without hkept]
    exact hpasses r hr
  case answer =>
    rw [hselected]
    refine (eq_of_perm_of_listed (nodup_ids_listed ?_) (pairwise_listed _)
      ((pairwise_listed _).filter _) ((List.mergeSort_perm _ _).trans hperm.symm)).symm
    exact hs.sublist ((List.filter_sublist.trans List.filter_sublist).map _)

end Query

end ContactBook
