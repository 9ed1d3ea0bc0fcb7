/-
**Requests to the service, one after the other.**

Whatever is asked of the service, by any method, path, headers and body, on any days and in any
order: a store changes only where contacts of an organisation are deleted and the answer says so. 
Every other request leaves the book as it was, also one that fails after some contacts were deleted
from the copy of the store.

Main definitions:

* `ContactBook.Http.Exchange`, `ContactBook.Http.session` — requests that a book is served, their
  answers, and the books before and after each;
* `ContactBook.Http.Request.Deletes` — a request to delete contacts of an organisation;
* `ContactBook.Http.Exchange.AllOrNothing` — an exchange deletes what it answers, or nothing.

Main results:

* `ContactBook.Http.book_serve`, `ContactBook.Http.dispatch_bulkDelete` — the only path and method
  that write;
* `ContactBook.Http.allOrNothing_serve` — one request;
* `ContactBook.Http.allOrNothing_session` — **any requests**.
-/

import ContactBook.Http.Service
import ContactBook.Proofs.Store.Reachable

set_option autoImplicit false

namespace ContactBook

/-- The request of a body is forced exactly if the body says so. -/
theorem Deletion.Body.force_request {policy : Policy} {body : Body} {request : Request}
    (h : body.request policy = .ok request) : request.force = body.force.getD false := by
  unfold Body.request at h
  split at h
  · obtain ⟨filter, -, heq⟩ := bind_eq_ok_iff.1 h
    exact congrArg Request.force (Except.ok.inj heq).symm
  · split at h
    · exact nomatch h
    · exact nomatch h
    · exact congrArg Request.force (Except.ok.inj h).symm

/-- No fault is answered with success. -/
theorem Fault.status_ne_success (f : Fault) : f.status ≠ 200 := by
  cases f <;> simp [status]

namespace Http

/-! ### Sessions -/

/-- A request with its answer, and the book before and after. -/
structure Exchange where
  before : Book
  request : Request
  response : Response
  after : Book

/-- A book that is served requests, one after the other, each on its day. -/
def session (exposeDetails : Bool) : Book → List (Int × Request) → List Exchange
  | _, [] => []
  | b, (today, r) :: rest =>
    let (response, left) := serve b exposeDetails today r
    ⟨b, r, response, left⟩ :: session exposeDetails left rest

/-- A request to delete contacts of an organisation: it is sent to the path for it, and the header
that names the organisation has, without the blanks around it, a name of 1 to 128 printable ASCII
characters. -/
structure Request.Deletes (r : Request) (tenant : String) : Prop where
  method : r.method = "POST"
  path : r.path = "/v1/contacts/bulk-delete"
  header : (r.header? "x-organization-id").map Text.trim = some tenant
  size : 1 ≤ tenant.length ∧ tenant.length ≤ 128
  printable : ∀ c ∈ tenant.toList, 0x20 ≤ c.toNat ∧ c.toNat ≤ 0x7E

/-- An exchange deletes what its answer says, or it changes nothing. -/
structure Exchange.AllOrNothing (x : Exchange) : Prop where
  /-- Unless the request is one to delete contacts and is answered with success, the book stays as
  it was. -/
  nothing : (¬ ∃ tenant, x.request.Deletes tenant ∧ x.response.status = 200) → x.after = x.before
  /-- Otherwise the answer tells how many contacts of the organisation were deleted, and workflow
  states were deleted only if the body forces it. -/
  all : ∀ tenant, x.request.Deletes tenant → x.response.status = 200 →
    ∃ (body : Deletion.Body) (answer : Json.Value) (deleted : Nat),
      deletionBody x.request = .ok body ∧ x.response.body = answer.render ∧
      answer.member? "deletedCount" = some (.number (.integer deleted)) ∧
      x.after = { x.before with store := x.after.store } ∧
      Deletion.Deletes tenant (body.force == some true) deleted x.before.store x.after.store

/-! ### The path that writes -/

variable {b : Book} {exposeDetails : Bool} {today : Int} {r : Request} {tenant : String}

theorem Route.path_of_ofPath? {path : String} {route : Route}
    (h : Route.ofPath? path = some route) : route.path = path := by
  have := List.find?_some h
  simpa using this

/-- A request to the path for deletions that is made for an organisation is one to delete its
contacts. -/
theorem deletes_of_tenant? (hmethod : r.method = "POST")
    (hpath : r.path = "/v1/contacts/bulk-delete") (h : tenant? r = some tenant) :
    r.Deletes tenant := by
  obtain ⟨hname, haccepted⟩ := Option.filter_eq_some_iff.1 h
  obtain ⟨value, hvalue, htrim⟩ := Option.map_eq_some_iff.1 hname
  obtain ⟨hheader, -⟩ := Option.filter_eq_some_iff.1 hvalue
  simp only [isPrintable, Bool.and_eq_true, decide_eq_true_eq, List.all_eq_true] at haccepted
  exact ⟨hmethod, hpath, Option.map_eq_some_iff.2 ⟨value, hheader, htrim⟩, haccepted.1,
    haccepted.2⟩

/-- The answers of the other paths leave the book as it was. -/
theorem book_answer {route : Route} (h : route ≠ .bulkDelete) :
    (answer b exposeDetails today route r).2 = b := by
  cases route with
  | health => rfl
  | contacts =>
      simp only [answer]
      split
      · rfl
      · split <;> rfl
  | bulkDelete => exact absurd rfl h

/-- Only a request to the path for deletions, by its method, can change the book. -/
theorem book_serve (h : ¬ (r.method = "POST" ∧ r.path = "/v1/contacts/bulk-delete")) :
    (serve b exposeDetails today r).2 = b := by
  change (dispatch b exposeDetails today r).2 = b
  unfold dispatch
  simp only
  split
  · rfl
  · split
    · rfl
    next route hroute =>
      split
      · rfl
      next hmethod =>
        refine book_answer ?_
        rintro rfl
        refine h ⟨?_, (Route.path_of_ofPath? hroute).symm⟩
        simpa [Route.methods] using hmethod

/-- A request to that path by that method gets the answer of the path. -/
theorem dispatch_bulkDelete (hmethod : r.method = "POST")
    (hpath : r.path = "/v1/contacts/bulk-delete") :
    dispatch b exposeDetails today r = answer b exposeDetails today .bulkDelete r := by
  have hroute : Route.ofPath? r.path = some .bulkDelete := by rw [hpath]; decide +kernel
  unfold dispatch
  simp [hroute, hmethod, Route.methods]

/-- A request to delete fails, and then the book stays as it was, or its request is carried out. -/
theorem bulkDelete_cases (b : Book) (exposeDetails : Bool) (today : Int) (tenant : String)
    (r : Request) :
    (∃ f, bulkDelete b exposeDetails today tenant r = (faultResponse exposeDetails f, b)) ∨
      ∃ body request outcome left, deletionBody r = .ok body ∧
        body.request b.policy = .ok request ∧ b.delete today tenant request = (.ok outcome, left) ∧
          bulkDelete b exposeDetails today tenant r = (deletedResponse outcome, left) := by
  unfold bulkDelete
  cases hrequest : deletionBody r >>= Deletion.Body.request b.policy with
  | error f => exact .inl ⟨f, rfl⟩
  | ok request =>
      obtain ⟨body, hbody, hrequest⟩ := bind_eq_ok_iff.1 hrequest
      cases hdelete : b.delete today tenant request with
      | mk result left =>
          cases result with
          | error f =>
              obtain rfl := Book.eq_of_delete_eq_error hdelete
              exact .inl ⟨f, by simp only [hdelete]⟩
          | ok outcome =>
              exact .inr ⟨body, request, outcome, left, hbody, hrequest, hdelete,
                by simp only [hdelete]⟩

/-- A request to the path for deletions fails, and then the book stays as it was, or it is carried
out for the organisation that it names. -/
theorem answer_bulkDelete_cases (b : Book) (exposeDetails : Bool) (today : Int) (r : Request) :
    (∃ expose f, answer b exposeDetails today .bulkDelete r = (faultResponse expose f, b)) ∨
      ∃ tenant body request outcome left, tenant? r = some tenant ∧ deletionBody r = .ok body ∧
        body.request b.policy = .ok request ∧ b.delete today tenant request = (.ok outcome, left) ∧
          answer b exposeDetails today .bulkDelete r = (deletedResponse outcome, left) := by
  simp only [answer]
  cases tenant? r with
  | none => exact .inl ⟨false, .unauthenticated, rfl⟩
  | some tenant =>
      rcases bulkDelete_cases b exposeDetails today tenant r with ⟨f, hanswer⟩ |
        ⟨body, request, outcome, left, hdone⟩
      · exact .inl ⟨exposeDetails, f, hanswer⟩
      · exact .inr ⟨tenant, body, request, outcome, left, rfl, hdone⟩

/-- **What a request can do**: it leaves the book as it was, and then it is not answered as a
deletion; or it deletes contacts of the organisation that it names, and is answered so. -/
theorem serve_cases (b : Book) (exposeDetails : Bool) (today : Int) (r : Request) :
    ((serve b exposeDetails today r).2 = b ∧
        ∀ tenant, r.Deletes tenant → (serve b exposeDetails today r).1.status ≠ 200) ∨
      ∃ tenant body request outcome, r.Deletes tenant ∧ deletionBody r = .ok body ∧
        body.request b.policy = .ok request ∧
          b.delete today tenant request = (.ok outcome, (serve b exposeDetails today r).2) ∧
            (serve b exposeDetails today r).1.status = 200 ∧
              (serve b exposeDetails today r).1.body = (deletedResponse outcome).body := by
  by_cases hwrites : r.method = "POST" ∧ r.path = "/v1/contacts/bulk-delete"
  · -- the headers of every response are all that is added to the answer
    have hserve : serve b exposeDetails today r =
        ({ (answer b exposeDetails today .bulkDelete r).1 with
            headers := commonHeaders ++ (answer b exposeDetails today .bulkDelete r).1.headers },
          (answer b exposeDetails today .bulkDelete r).2) := by
      rw [← dispatch_bulkDelete hwrites.1 hwrites.2]
      rfl
    rcases answer_bulkDelete_cases b exposeDetails today r with ⟨expose, f, hanswer⟩ |
      ⟨tenant, body, request, outcome, left, htenant, hbody, hrequest, hdelete, hanswer⟩
    · rw [hanswer] at hserve
      rw [hserve]
      exact .inl ⟨rfl, fun _ _ => f.status_ne_success⟩
    · rw [hanswer] at hserve
      rw [hserve]
      exact .inr ⟨tenant, body, request, outcome, deletes_of_tenant? hwrites.1 hwrites.2 htenant,
        hbody, hrequest, hdelete, rfl, rfl⟩
  · exact .inl ⟨book_serve hwrites, fun _ h => absurd ⟨h.method, h.path⟩ hwrites⟩

/-! ### Any requests -/

theorem request_session (exposeDetails : Bool) (b : Book) (rs : List (Int × Request)) :
    (session exposeDetails b rs).map (·.request) = rs.map Prod.snd := by
  induction rs generalizing b with
  | nil => rfl
  | cons r rs ih => exact congrArg (r.2 :: ·) (ih _)

/-- **One request**: what its answer says is deleted, or nothing is. -/
theorem allOrNothing_serve (b : Book) (exposeDetails : Bool) (today : Int) (r : Request) :
    Exchange.AllOrNothing
      ⟨b, r, (serve b exposeDetails today r).1, (serve b exposeDetails today r).2⟩ := by
  rcases serve_cases b exposeDetails today r with ⟨hbook, hstatus⟩ |
    ⟨tenant, body, request, outcome, hdeletes, hbody, hrequest, hdelete, hstatus, htext⟩
  · exact ⟨fun _ => hbook, fun tenant hdeletes h => absurd h (hstatus tenant hdeletes)⟩
  · refine ⟨fun h => absurd ⟨tenant, hdeletes, hstatus⟩ h, fun other hother _ => ?_⟩
    -- the header names one organisation
    obtain rfl : tenant = other := Option.some.inj (hdeletes.header.symm.trans hother.header)
    obtain ⟨hbook, hdeleted⟩ := Book.deletes_of_delete hdelete
    rw [Deletion.Body.force_request hrequest] at hdeleted
    refine ⟨body, _, outcome.deleted, hbody, htext, rfl, hbook, ?_⟩
    cases hforce : body.force with
    | none => simpa [hforce] using hdeleted
    | some force => simpa [hforce] using hdeleted

/-- **Any requests**, on any days and in any order. -/
theorem allOrNothing_session (exposeDetails : Bool) (b : Book) (rs : List (Int × Request)) :
    ∀ x ∈ session exposeDetails b rs, x.AllOrNothing := by
  induction rs generalizing b with
  | nil =>
      intro x hx
      exact nomatch hx
  | cons r rs ih =>
      intro x hx
      rcases List.mem_cons.1 hx with rfl | hx
      · exact allOrNothing_serve b exposeDetails r.1 r.2
      · exact ih _ x hx

/-- A listing without an organisation is refused, and so are a deletion of a contact in a workflow
and one whose body is no text.  The deletion, forced, deletes both contacts that it names. -/
theorem allOrNothing_session_twoOffices :
    let b : Book := { policy := .strict, store := .twoOffices }
    let ask (body : List UInt8) : Request :=
      ⟨"POST", "/v1/contacts/bulk-delete",
        [("X-Organization-Id", " acme "), ("Content-Type", "application/json")], body⟩
    let named := "\x7b\"contactIds\":[\"a2\",\"a3\"]"
    let bytes (text : String) := Text.Utf8.encode text.toList
    let xs := session false b
      [(newYear, ⟨"GET", "/v1/contacts", [], []⟩), (newYear, ask (bytes (named ++ "\x7d"))),
        (newYear + 1, ask (0xFF :: bytes (named ++ "\x7d"))),
        (newYear + 1, ask (bytes (named ++ ",\"force\":true\x7d")))]
    xs.map (·.response.status) = [401, 400, 400, 200] ∧
      (∀ x ∈ xs, x.response.status ≠ 200 → x.after = x.before) ∧
        ∃ x ∈ xs, x.request.Deletes "acme" ∧ x.response.status = 200 ∧
          (vanished x.before.store.contacts x.after.store.contacts).map (·.id) = ["a2", "a3"] ∧
            ∃ answer : Json.Value, x.response.body = answer.render ∧
              answer.member? "deletedCount" = some (.number (.integer 2)) := by
  intro b ask named bytes xs
  have hxs : ∀ x ∈ xs, x.AllOrNothing := allOrNothing_session false b _
  have hstatus : xs.map (·.response.status) = [401, 400, 400, 200] := by decide +kernel
  refine ⟨hstatus, fun x hx hne => (hxs x hx).nothing fun ⟨_, _, h⟩ => hne h, ?_⟩
  -- the last exchange is the one that deletes
  obtain ⟨x, hx⟩ : ∃ x, xs[3]? = some x := Option.isSome_iff_exists.1 (by decide +kernel)
  have hat {α : Type} {f : Exchange → α} {a : α} (h : (xs.map f)[3]? = some a) : f x = a := by
    rw [List.getElem?_map, hx] at h
    exact Option.some.inj h
  have hrequest := hat (f := Exchange.request) (by rw [request_session]; rfl)
  have hsuccess : x.response.status = 200 := hat (by rw [hstatus]; rfl)
  have hgone :=
    hat (f := fun x => (vanished x.before.store.contacts x.after.store.contacts).map (·.id))
      (a := ["a2", "a3"]) (by decide +kernel)
  have hdeletes : x.request.Deletes "acme" := by
    rw [hrequest]
    exact ⟨rfl, by decide +kernel, by decide +kernel, by decide, by simp⟩
  have hmem := List.mem_of_getElem? hx
  obtain ⟨body, answer, deleted, -, htext, hcount, -, hdone⟩ :=
    (hxs x hmem).all "acme" hdeletes hsuccess
  have htwo : deleted = 2 := by
    rw [← hdone.count, ← List.length_map (f := (·.id)), hgone]
    rfl
  exact ⟨x, hmem, hdeletes, hsuccess, hgone, answer, htext, by rw [hcount, htwo]; rfl⟩

end Http

end ContactBook
