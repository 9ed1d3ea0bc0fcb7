/-
**Deleting many contacts at once.**

A request names contacts, or asks for all that a filter and a search term select.  It is worked off
in stages: the contacts are resolved, it is checked whether they take part in workflows, if need be
the states of these workflows are deleted, and then the contacts.  A stage may abort the request.
All stages work on a copy of the store, which replaces the store only when the request completes; so
either everything is deleted that was resolved, or nothing.

A request that names contacts refuses to touch contacts in workflows unless it is forced.  Contacts
that the organisation does not own are counted and otherwise passed over; if it owns none of them
the request completes at once.  A request for all matching contacts does not check for workflows:
forced, it always deletes their states first, and otherwise it fails on the first contact that has
one.

Contacts are worked off in batches, and each batch checks the organisation again.

Main definitions:

* `ContactBook.Deletion.Request`, `ContactBook.Deletion.Outcome` — requests and how they end;
* `ContactBook.Deletion.Stage`, `ContactBook.Deletion.advance` — the stages, and the step to the
  next;
* `ContactBook.Deletion.run` — working off a request.
-/

import ContactBook.Batch
import ContactBook.Query.Answer

set_option autoImplicit false

namespace ContactBook.Deletion

/-! ### Requests -/

/-- The contacts that a request means. -/
inductive Selection where
  | explicit (ids : List String)
  | matching (filter : Option Filter) (term : Option String)

/-- A request to delete contacts, and with `force` also the states of their workflows. -/
structure Request where
  selection : Selection
  force : Bool

/-- Whether a request means all matching contacts. -/
def Request.isMatching (r : Request) : Bool :=
  match r.selection with
  | .explicit _ => false
  | .matching _ _ => true

/-- How many contacts were deleted, and how many were named that the organisation does not own. -/
structure Outcome where
  deleted : Nat
  invalid : Nat
  deriving DecidableEq, Repr

/-- The contacts that a request comes down to. -/
structure Targets where
  ids : List String
  invalid : Nat
  deriving DecidableEq, Repr

/-! ### Statements -/

/-- Whether a contact belongs to an organisation and has one of some ids. -/
def isOwned (tenant : String) (ids : List String) (r : Record) : Bool :=
  r.organizationId == tenant && ids.contains r.id

/-- The ids among a batch that belong to contacts of an organisation. -/
def ownedInBatch (s : Store) (tenant : String) (ids : List String) : List String :=
  (s.contacts.filter (isOwned tenant ids)).map (·.id)

/-- The ids that belong to contacts of an organisation. -/
def owned (size : Nat) (s : Store) (tenant : String) (ids : List String) : List String :=
  (batches size ids).flatMap (ownedInBatch s tenant)

/-- The ids among a batch that belong to contacts in workflows. -/
def dependentInBatch (s : Store) (ids : List String) : List String :=
  (s.workflowStates.filter fun w => ids.contains w.contactId).map (·.contactId)

/-- The ids, in their order, that belong to contacts in workflows. -/
def dependents (size : Nat) (s : Store) (ids : List String) : List String :=
  let found := (batches size ids).flatMap (dependentInBatch s)
  ids.filter found.contains

/-- Deletes the workflow states of the contacts of an organisation among a batch, and counts
them. -/
def releaseBatch (tenant : String) (s : Store) (ids : List String) : Nat × Store :=
  let released := ownedInBatch s tenant ids
  (s.workflowStates.countP fun w => released.contains w.contactId,
    { s with workflowStates := s.workflowStates.filter fun w => !released.contains w.contactId })

/-- Deletes the workflow states of contacts of an organisation, batch by batch. -/
def release (tenant : String) : Nat × Store → List (List String) → Nat × Store
  | counted, [] => counted
  | (count, s), ids :: rest =>
    let (more, s) := releaseBatch tenant s ids
    release tenant (count + more, s) rest

/-- Deletes the contacts of an organisation among a batch with their links, and counts them.  It is
refused if one of them has a workflow state. -/
def deleteBatch (tenant : String) (s : Store) (ids : List String) : Except Report (Nat × Store) :=
  let gone := ownedInBatch s tenant ids
  if s.workflowStates.any fun w => gone.contains w.contactId then
    .error (.failure Report.brokenReference "FOREIGN KEY constraint failed")
  else
    .ok (s.contacts.countP (isOwned tenant ids),
      { s with
        contacts := s.contacts.filter fun r => !isOwned tenant ids r
        links := s.links.filter fun l => !gone.contains l.contactId })

/-- Deletes contacts of an organisation, batch by batch. -/
def delete (tenant : String) : Nat × Store → List (List String) → Except Report (Nat × Store)
  | counted, [] => .ok counted
  | (count, s), ids :: rest =>
    match deleteBatch tenant s ids with
    | .error report => .error report
    | .ok (more, s) => delete tenant (count + more, s) rest

/-! ### Stages -/

/-- How far a request has come. -/
inductive Stage where
  | start
  | resolving
  | checking (targets : Targets)
  | cascading (targets : Targets)
  | deleting (targets : Targets)
  | completed (outcome : Outcome)
  | aborted (fault : Fault)

namespace Stage

/-- The name of a stage. -/
def name : Stage → String
  | start => "Start"
  | resolving => "ResolvingTargets"
  | checking _ => "CheckingDependents"
  | cascading _ => "CascadingDeletes"
  | deleting _ => "Deleting"
  | completed _ => "Completed"
  | aborted _ => "Aborted"

/-- How many stages may still follow, at most. -/
def remaining : Stage → Nat
  | start => 5
  | resolving => 4
  | checking _ => 3
  | cascading _ => 2
  | deleting _ => 1
  | completed _ | aborted _ => 0

/-- Whether a request has come to its end. -/
def isFinal (stage : Stage) : Bool := stage.remaining == 0

end Stage

/-- A request at work: its stage, the copy of the store, the stages it was in, and how many workflow
states were deleted, if that stage was reached. -/
structure Progress where
  stage : Stage
  store : Store
  passed : List Stage := []
  cascaded : Option Nat := none

/-- Finds the contacts that a request means, when it is `today`. -/
def resolve (e : Engine) (today : Int) (size : Nat) (tenant : String) (request : Request)
    (s : Store) : Stage :=
  match request.selection with
  | .explicit ids =>
    let ids := ids.eraseDups
    let found := owned size s tenant ids
    let targets := ids.filter found.contains
    if targets.isEmpty then .completed ⟨0, 0⟩ else .checking ⟨targets, ids.length - targets.length⟩
  | .matching filter term =>
    match (Query.matching tenant filter term).run e today s with
    | .error report => .aborted (.ofReport report)
    | .ok [] => .aborted (.notFound "no contacts match the current filter")
    | .ok records => .checking ⟨records.map (·.id), 0⟩

/-- Decides what happens to contacts in workflows. -/
def check (size : Nat) (request : Request) (s : Store) (targets : Targets) : Stage :=
  if request.isMatching then
    if request.force then .cascading targets else .deleting targets
  else
    match dependents size s targets.ids with
    | [] => .deleting targets
    | ids => if request.force then .cascading targets else .aborted (.dependents ids)

/-- One step: the next stage, and what it leaves of the copy of the store. -/
def advance (e : Engine) (today : Int) (size : Nat) (tenant : String) (request : Request)
    (p : Progress) : Progress :=
  let passed := p.passed ++ [p.stage]
  match p.stage with
  | .start => { p with stage := .resolving, passed := passed }
  | .resolving =>
    { p with stage := resolve e today size tenant request p.store, passed := passed }
  | .checking targets =>
    { p with stage := check size request p.store targets, passed := passed }
  | .cascading targets =>
    let (count, s) := release tenant (0, p.store) (batches size targets.ids)
    ⟨.deleting targets, s, passed, some count⟩
  | .deleting targets =>
    match delete tenant (0, p.store) (batches size targets.ids) with
    | .error report => { p with stage := .aborted (.ofReport report), passed := passed }
    | .ok (count, s) =>
      { p with stage := .completed ⟨count, targets.invalid⟩, store := s, passed := passed }
  | .completed _ | .aborted _ => p

/-- Some steps. -/
def advanceBy (e : Engine) (today : Int) (size : Nat) (tenant : String) (request : Request) :
    Nat → Progress → Progress
  | 0, p => p
  | n + 1, p =>
    advanceBy e today size tenant request n (advance e today size tenant request p)

/-- A request worked off to its end. -/
def finish (e : Engine) (today : Int) (size : Nat) (tenant : String) (request : Request)
    (s : Store) : Progress :=
  advanceBy e today size tenant request Stage.start.remaining ⟨.start, s, [], none⟩

/-- The stages of a request that was worked off, in order. -/
def Progress.stages (p : Progress) : List Stage := p.passed ++ [p.stage]

/-- How a request that was worked off ended. -/
def Progress.outcome (p : Progress) : Except Fault Outcome :=
  match p.stage with
  | .completed outcome => .ok outcome
  | .aborted fault => .error fault
  | _ => .error (.storage "unfinished deletion")

/-- The store that a request leaves which was worked off from `s`. -/
def Progress.storeAfter (s : Store) (p : Progress) : Store :=
  match p.stage with
  | .completed _ => p.store
  | _ => s

/-- How many ids one statement takes. -/
def batchSize : Nat := 500

/-- Works off a request on a day: how it ends, and the store it leaves. -/
def run (e : Engine) (today : Int) (s : Store) (tenant : String) (request : Request) :
    Except Fault Outcome × Store :=
  let p := finish e today batchSize tenant request s
  (p.outcome, p.storeAfter s)

end ContactBook.Deletion
