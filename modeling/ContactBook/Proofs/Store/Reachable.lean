/-
**Reachable stores.**

A store begins empty, and from then on it changes only by calls on a book that holds it.  A call may
be refused, and a book may be locked; a store counts as reachable all the same.  What every call
keeps is true of every reachable store, and integrity is such a thing.

Main definitions:

* `ContactBook.Call`, `ContactBook.Call.apply` — the calls that write, and the book that each
  leaves;
* `ContactBook.Call.Leaves` — the stores that a call can leave, by what it is;
* `ContactBook.Store.ReachableBy` — the stores that some calls lead to;
* `ContactBook.Store.twoOffices` — a small store with contacts of two organisations.

Main results:

* `ContactBook.Book.eq_of_delete_eq_error`, `deletes_of_delete` — how a book is left by a deletion
  that fails or succeeds;
* `ContactBook.Call.leaves` — a call leaves what it can leave, from which every law about calls
  follows;
* `ContactBook.Store.Integrity.apply` — every call keeps integrity;
* `ContactBook.Store.ReachableBy.integrity` — **every reachable store has integrity**;
* `ContactBook.Store.ReachableBy.after` — more calls lead from reachable stores to reachable stores.
-/

import ContactBook.Book
import ContactBook.Proofs.Deletion.Frame
import ContactBook.Proofs.Deletion.Targets

set_option autoImplicit false

namespace ContactBook

open Calendar (Instant)

/-- A call that may write to the store of a book. -/
inductive Call where
  | addContact (tenant : String) (draft : Draft) (now : Instant)
  | tagContact (tenant contactId name : String)
  | addWorkflow (contactId workflow : String)
  | overwrite (id : String) (column : Column) (text : Option String)
  | delete (today : Int) (tenant : String) (request : Deletion.Request)

/-- The book that a call leaves. -/
def Call.apply (b : Book) : Call → Book
  | .addContact tenant draft now => (b.addContact tenant draft now).2
  | .tagContact tenant contactId name => (b.tagContact tenant contactId name).2
  | .addWorkflow contactId workflow => (b.addWorkflow contactId workflow).2
  | .overwrite id column text => (b.overwrite id column text).2
  | .delete today tenant request => (b.delete today tenant request).2

namespace Store

/-- The stores that calls of some sort lead to, one after the other, from the empty store on. -/
inductive ReachableBy (sort : Call → Prop) : Store → Prop
  | empty : ReachableBy sort .empty
  | call {b : Book} {c : Call} (hc : sort c) (hb : ReachableBy sort b.store) :
      ReachableBy sort (c.apply b).store

/-- The stores that any calls lead to. -/
abbrev Reachable : Store → Prop := ReachableBy fun _ => True

end Store

/-! ### Calls on a book -/

namespace Book

variable {α : Type}

/-- A book answers what its store answers, unless it is locked. -/
theorem read_eq_ok_iff {b : Book} {ask : Store → Except Report α} {a : α} :
    b.read ask = .ok a ↔ b.locked = false ∧ ask b.store = .ok a := by
  unfold read
  cases b.locked with
  | true => simp
  | false => cases ask b.store <;> simp [Except.mapError]

/-- The store after a write is what the write leaves, or the same in a locked book. -/
theorem store_write (b : Book) (act : Store → Except Report α × Store) :
    (b.write act).2.store = if b.locked then b.store else (act b.store).2 := by
  unfold write
  split <;> rfl

/-- What a book does with a request to delete is what the request does with the store, unless it is
locked. -/
theorem delete_eq (b : Book) (today : Int) (tenant : String) (request : Deletion.Request) :
    b.delete today tenant request =
      if b.locked then (.error .poisoned, b)
      else ((Deletion.run b.engine today b.store tenant request).1,
        { b with store := (Deletion.run b.engine today b.store tenant request).2 }) := rfl

theorem delete_of_open {b : Book} (h : b.locked = false) (today : Int) (tenant : String)
    (request : Deletion.Request) :
    b.delete today tenant request = ((Deletion.run b.engine today b.store tenant request).1,
      { b with store := (Deletion.run b.engine today b.store tenant request).2 }) := by
  rw [delete_eq, h, if_neg Bool.false_ne_true]

/-- The store after a deletion is what the request leaves, or the same in a locked book. -/
theorem store_delete (b : Book) (today : Int) (tenant : String) (request : Deletion.Request) :
    (b.delete today tenant request).2.store =
      if b.locked then b.store else (Deletion.run b.engine today b.store tenant request).2 := by
  unfold delete
  split <;> rfl

/-- A deletion that fails leaves the book as it was. -/
theorem eq_of_delete_eq_error {b left : Book} {today : Int} {tenant : String}
    {request : Deletion.Request} {fault : Fault}
    (h : b.delete today tenant request = (.error fault, left)) : left = b := by
  rw [delete_eq] at h
  split at h
  · exact (Prod.mk.inj h).2.symm
  · obtain ⟨hrun, rfl⟩ := Prod.mk.inj h
    rw [Deletion.store_of_run_eq_error hrun]

/-- A deletion that succeeds deletes as many contacts as it counts, and changes only the store. -/
theorem deletes_of_delete {b left : Book} {today : Int} {tenant : String}
    {request : Deletion.Request} {outcome : Deletion.Outcome}
    (h : b.delete today tenant request = (.ok outcome, left)) :
    left = { b with store := left.store } ∧
      Deletion.Deletes tenant request.force outcome.deleted b.store left.store := by
  rw [delete_eq] at h
  split at h
  · exact nomatch (Prod.mk.inj h).1
  · obtain ⟨hrun, rfl⟩ := Prod.mk.inj h
    exact ⟨rfl, Deletion.deletes_of_run hrun⟩

end Book

/-! ### What a call leaves -/

/-- A write that leaves the store as it is when it is refused. -/
theorem Book.orElseUnchanged_cases {α : Type} (act : Store → Except Report (α × Store))
    (s : Store) : (orElseUnchanged act s).2 = s ∨
      ∃ a s', act s = .ok (a, s') ∧ (orElseUnchanged act s).2 = s' := by
  unfold orElseUnchanged
  cases hs : act s with
  | error report => exact .inl rfl
  | ok result => exact .inr ⟨result.1, result.2, rfl, rfl⟩

/-- **What a call can make of a store**: nothing, if it is refused or the book is locked; or what
the write makes of it that the call stands for.  A request to delete takes contacts of the
organisation out. -/
inductive Call.Leaves (s : Store) : Call → Store → Prop
  | nothing (c : Call) : Leaves s c s
  | addContact {tenant : String} {draft : Draft} {now : Instant} {s' : Store}
      (h : s.addContact tenant draft now = .ok s') : Leaves s (.addContact tenant draft now) s'
  | tagContact (tenant contactId name : String) :
      Leaves s (.tagContact tenant contactId name) (s.tagContact tenant contactId name).2
  | addWorkflow {contactId workflow : String} {id : Nat} {s' : Store}
      (h : s.addWorkflow contactId workflow = .ok (id, s')) :
      Leaves s (.addWorkflow contactId workflow) s'
  | overwrite {id : String} {column : Column} {text : Option String} {count : Nat} {s' : Store}
      (h : s.overwrite id column text = .ok (count, s')) : Leaves s (.overwrite id column text) s'
  | delete {tenant : String} {gone : List String} (today : Int) (request : Deletion.Request)
      (h : Deletion.Settled s tenant gone) :
      Leaves s (.delete today tenant request) (s.without gone)

/-- **A call leaves what it can leave**, in a book in which no two contacts have one id. -/
theorem Call.leaves {b : Book} (hb : (b.store.contacts.map (·.id)).Nodup) (c : Call) :
    c.Leaves b.store (c.apply b).store := by
  -- a locked book keeps its store, and otherwise a write decides
  have hwrite : ∀ {α : Type} {act : Store → Except Report α × Store},
      c.Leaves b.store (act b.store).2 → c.Leaves b.store (b.write act).2.store := by
    intro α act hact
    rw [Book.store_write]
    split
    · exact .nothing c
    · exact hact
  have hsame : ∀ {s' : Store}, s' = b.store → c.Leaves b.store s' := by
    rintro s' rfl
    exact .nothing c
  cases c with
  | addContact tenant draft now =>
      refine hwrite ?_
      rcases Book.orElseUnchanged_cases _ _ with heq | ⟨_, s', hs, heq⟩
      · exact hsame heq
      · obtain ⟨added, hadd, hpair⟩ := map_eq_ok_iff.1 hs
        obtain ⟨-, rfl⟩ := Prod.mk.inj hpair
        rw [heq]
        exact .addContact hadd
  | tagContact tenant contactId name => exact hwrite (.tagContact tenant contactId name)
  | addWorkflow contactId workflow =>
      refine hwrite ?_
      rcases Book.orElseUnchanged_cases _ _ with heq | ⟨_, s', hs, heq⟩
      · exact hsame heq
      · rw [heq]
        exact .addWorkflow hs
  | overwrite id column text =>
      refine hwrite ?_
      rcases Book.orElseUnchanged_cases _ _ with heq | ⟨_, s', hs, heq⟩
      · exact hsame heq
      · rw [heq]
        exact .overwrite hs
  | delete today tenant request =>
      rw [Call.apply, Book.store_delete]
      split
      · exact .nothing _
      · obtain ⟨gone, hsettled, hgone⟩ := Deletion.run_store hb b.engine today tenant request
        rw [hgone]
        exact .delete today request hsettled

/-- **Every call keeps integrity**, whether it is carried out or refused. -/
theorem Store.Integrity.apply {b : Book} (h : b.store.Integrity) (c : Call) :
    (c.apply b).store.Integrity := by
  have hleaves := c.leaves h.contact_ids
  generalize (c.apply b).store = s' at hleaves
  cases hleaves with
  | nothing => exact h
  | addContact hs => exact h.addContact hs
  | tagContact tenant contactId name => exact h.tagContact tenant contactId name
  | addWorkflow hs => exact h.addWorkflow hs
  | overwrite hs => exact h.overwrite hs
  | delete today request hsettled => exact h.without _

/-- **Every reachable store has integrity.** -/
theorem Store.ReachableBy.integrity {sort : Call → Prop} {s : Store} (h : s.ReachableBy sort) :
    s.Integrity := by
  induction h with
  | empty => exact .empty
  | call _ _ ih => exact ih.apply _

/-! ### Many calls -/

/-- The book that calls leave, one after the other. -/
def Book.after (b : Book) (calls : List Call) : Book := calls.foldl (fun b c => c.apply b) b

/-- More calls lead from reachable stores to reachable stores. -/
theorem Store.ReachableBy.after {sort : Call → Prop} {b : Book} (h : b.store.ReachableBy sort)
    {calls : List Call} (hc : ∀ c ∈ calls, sort c) : (b.after calls).store.ReachableBy sort := by
  induction calls generalizing b with
  | nil => exact h
  | cons c calls ih =>
      exact ih (.call (hc c List.mem_cons_self) h) fun c' hc' => hc c' (List.mem_cons_of_mem _ hc')

/-- The first day of the year 2024. -/
def newYear : Int := 2460311

/-- A store of two organisations.  Two contacts of the first have a tag, and one of them takes part
in a workflow; the contact of the second has a tag of the same name. -/
def Store.twoOffices : Store :=
  let midnight : Instant := ⟨newYear, 0, 0⟩
  let book : Book := { policy := .lenient, store := .empty }
  (book.after
    [.addContact "acme" { id := "a1", attributes := { firstName := some "Ada" } } midnight,
      .addContact "acme" { id := "a2", attributes := { lastName := some "Adams" } } midnight,
      .addContact "acme" { id := "a3", attributes := { firstName := some "Bo" } } midnight,
      .addContact "globex" { id := "g1", attributes := { firstName := some "Ada" } } midnight,
      .tagContact "acme" "a1" "vip", .tagContact "acme" "a2" "vip", .tagContact "globex" "g1" "vip",
      .addWorkflow "a2" "onboarding"]).store

theorem Store.reachable_twoOffices : twoOffices.Reachable :=
  .after (b := { policy := .lenient, store := .empty }) .empty fun _ _ => trivial

end ContactBook
