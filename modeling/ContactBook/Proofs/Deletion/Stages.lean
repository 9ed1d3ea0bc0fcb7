/-
**The stages of a request to delete.**

A request goes from stage to stage until it has ended.  Which stage follows is decided by what the
stage before has found in the copy of the store, which the earlier stages may have changed.  This
module gives a rule that does not look at the copy: it asks what the targets of the request are in
the store, whether some of them are in workflows, of which kind the request is and whether it is
forced.  And it proves that every request keeps to the rule and comes to its end.

The proof is an invariant of the states that a request goes through.  It says what each stage knows
of the store and of its copy; in particular that a request that comes to delete contacts of which
some are in workflows has either released them before or is not forced and is for all matching
contacts.

Main definitions:

* `ContactBook.Deletion.Request.next?` — **the rule**: the stage that follows;
* `ContactBook.Deletion.Request.IsCourse` — stages that follow one another to the end by the rule;
* `ContactBook.Deletion.Reaches` — the states that a request goes through;
* `ContactBook.Deletion.Progress.Fits` — the invariant.

Main results:

* `ContactBook.Deletion.remaining_advance` — a step leaves fewer stages to come;
* `ContactBook.Deletion.Progress.Fits.advance` — **a step keeps to the rule** and keeps the
  invariant;
* `ContactBook.Deletion.course_finish` — **a request ends, and its stages are those of the rule**.
-/

import ContactBook.Proofs.Store.Reachable
import Mathlib.Data.List.Chain

set_option autoImplicit false

namespace ContactBook.Deletion

deriving instance DecidableEq for Stage

/-! ### The rule -/

/-- **The rule of the stages**: which one follows, if a request is made on the store `s`.  No stage
follows the last one. -/
def Request.next? (request : Request) (e : Engine) (today : Int) (s : Store) (tenant : String) :
    Stage → Option Stage
  | .start => some .resolving
  | .resolving => some <|
    match request.targets e today s tenant with
    | .error report => .aborted (.ofReport report)
    | .ok targets =>
      if targets.ids = [] then
        if request.isMatching then .aborted nothingMatches else .completed ⟨0, 0⟩
      else .checking targets
  | .checking targets => some <|
    if request.force && (request.isMatching || targets.ids.any s.hasWorkflow) then
      .cascading targets
    else if !request.isMatching && !request.force && targets.ids.any s.hasWorkflow then
      .aborted (.dependents (targets.ids.filter s.hasWorkflow))
    else .deleting targets
  | .cascading targets => some (.deleting targets)
  | .deleting targets => some <|
    if request.isMatching && !request.force && targets.ids.any s.hasWorkflow then
      .aborted (.ofReport inWorkflow)
    else .completed ⟨targets.ids.length, targets.invalid⟩
  | .completed _ | .aborted _ => none

/-- **A course of stages by the rule**: it begins with the first two stages, each stage is followed
by the one that the rule says, and the last stage is the only one that is final. -/
structure Request.IsCourse (request : Request) (e : Engine) (today : Int) (s : Store)
    (tenant : String) (stages : List Stage) : Prop where
  begins : ∃ rest, stages = .start :: .resolving :: rest
  follows : stages.IsChain fun stage next => request.next? e today s tenant stage = some next
  ends : ∃ last, stages.getLast? = some last ∧ stages.filter Stage.isFinal = [last]

/-- The states that a request goes through, from its start on, as long as its stage is not final. -/
inductive Reaches (e : Engine) (today : Int) (size : Nat) (tenant : String) (request : Request)
    (s : Store) : Progress → Prop
  | start : Reaches e today size tenant request s ⟨.start, s, [], none⟩
  | step {p : Progress} (h : Reaches e today size tenant request s p)
      (hgoes : p.stage.isFinal = false) :
      Reaches e today size tenant request s (advance e today size tenant request p)

variable {e : Engine} {today : Int} {size : Nat} {s : Store} {tenant : String} {request : Request}
  {targets : Targets} {p : Progress}

theorem next?_eq_none_of_isFinal {stage : Stage} (h : stage.isFinal = true) :
    request.next? e today s tenant stage = none := by
  cases stage with
  | completed outcome => rfl
  | aborted fault => rfl
  | _ => exact absurd h (by simp [Stage.isFinal, Stage.remaining])

/-- From one item on there is one way only to go where a function leads, to the end. -/
theorem eq_of_isChain {α : Type} {next : α → Option α} {a : α} {as bs : List α}
    (ha : (a :: as).IsChain fun x y => next x = some y)
    (hb : (a :: bs).IsChain fun x y => next x = some y)
    (hlast : ∀ x ∈ (a :: as).getLast?, next x = none)
    (hlast' : ∀ x ∈ (a :: bs).getLast?, next x = none) : as = bs := by
  induction as generalizing a bs with
  | nil =>
      have hend : next a = none := hlast a rfl
      cases bs with
      | nil => rfl
      | cons b bs =>
          have hnext : next a = some b := (List.isChain_cons_cons.1 hb).1
          exact nomatch hend.symm.trans hnext
  | cons c as ih =>
      obtain ⟨hnext, ha⟩ := List.isChain_cons_cons.1 ha
      cases bs with
      | nil => exact nomatch (hlast' a rfl).symm.trans hnext
      | cons b bs =>
          obtain ⟨hnext', hb⟩ := List.isChain_cons_cons.1 hb
          obtain rfl := Option.some.inj (hnext.symm.trans hnext')
          rw [List.getLast?_cons_cons] at hlast hlast'
          rw [ih ha hb hlast hlast']

/-- **There is one course only.** -/
theorem Request.IsCourse.eq {stages stages' : List Stage}
    (h : request.IsCourse e today s tenant stages)
    (h' : request.IsCourse e today s tenant stages') : stages = stages' := by
  have hlast : ∀ {stages : List Stage}, request.IsCourse e today s tenant stages →
      ∀ stage ∈ stages.getLast?, request.next? e today s tenant stage = none := by
    intro stages h stage hstage
    obtain ⟨last, hlast, hfinal⟩ := h.ends
    obtain rfl := Option.some.inj (hlast.symm.trans hstage)
    have hmem : last ∈ stages.filter Stage.isFinal := by
      rw [hfinal]
      exact List.mem_singleton_self _
    exact next?_eq_none_of_isFinal (List.mem_filter.1 hmem).2
  have hends := hlast h
  have hends' := hlast h'
  have hfollows := h.follows
  have hfollows' := h'.follows
  obtain ⟨rest, rfl⟩ := h.begins
  obtain ⟨rest', rfl⟩ := h'.begins
  rw [eq_of_isChain hfollows hfollows' hends hends']

/-! ### The end -/

theorem remaining_resolve : (resolve e today size tenant request s).remaining ≤ 3 := by
  unfold resolve
  split
  · simp only
    split <;> simp [Stage.remaining]
  · split <;> simp [Stage.remaining]

theorem remaining_check : (check size request s targets).remaining ≤ 2 := by
  unfold check
  split
  · split <;> simp [Stage.remaining]
  · split
    · simp [Stage.remaining]
    · split <;> simp [Stage.remaining]

/-- **A step leaves fewer stages to come**, unless the request has ended. -/
theorem remaining_advance (h : p.stage.isFinal = false) :
    (advance e today size tenant request p).stage.remaining < p.stage.remaining := by
  obtain ⟨stage, store, passed, cascaded⟩ := p
  cases stage with
  | start => exact Nat.lt_succ_self 4
  | resolving => exact Nat.lt_succ_of_le remaining_resolve
  | checking targets => exact Nat.lt_succ_of_le remaining_check
  | cascading targets => exact Nat.lt_succ_self 1
  | deleting targets =>
      simp only [advance]
      split <;> exact Nat.one_pos
  | completed outcome => exact Bool.noConfusion h
  | aborted fault => exact Bool.noConfusion h

theorem isFinal_iff {stage : Stage} : stage.isFinal = true ↔ stage.remaining = 0 := beq_iff_eq

/-- It does not matter how many steps are made, if they are enough. -/
theorem advanceBy_eq_of_le {m n : Nat} (hm : p.stage.remaining ≤ m) (hn : p.stage.remaining ≤ n) :
    advanceBy e today size tenant request m p = advanceBy e today size tenant request n p := by
  induction m generalizing p n with
  | zero =>
      have hfinal : p.stage.isFinal = true := isFinal_iff.2 (Nat.le_zero.1 hm)
      rw [advanceBy_of_isFinal hfinal, advanceBy_of_isFinal hfinal]
  | succ m ih =>
      cases hfinal : p.stage.isFinal with
      | true => rw [advanceBy_of_isFinal hfinal, advanceBy_of_isFinal hfinal]
      | false =>
          have hless : (advance e today size tenant request p).stage.remaining <
              p.stage.remaining := remaining_advance hfinal
          cases n with
          | zero => omega
          | succ n => exact ih (by omega) (by omega)

/-- As many steps as stages can follow lead to the end. -/
theorem isFinal_advanceBy {n : Nat} (hn : p.stage.remaining ≤ n) :
    (advanceBy e today size tenant request n p).stage.isFinal = true := by
  induction n generalizing p with
  | zero => exact isFinal_iff.2 (Nat.le_zero.1 hn)
  | succ n ih =>
      cases hfinal : p.stage.isFinal with
      | true => rwa [advanceBy_of_isFinal hfinal]
      | false =>
          have hless : (advance e today size tenant request p).stage.remaining <
              p.stage.remaining := remaining_advance hfinal
          exact ih (by omega)

namespace Reaches

theorem advanceBy (h : Reaches e today size tenant request s p) (n : Nat) :
    Reaches e today size tenant request s (advanceBy e today size tenant request n p) := by
  induction n generalizing p with
  | zero => exact h
  | succ n ih =>
      cases hfinal : p.stage.isFinal with
      | true => rwa [advanceBy_of_isFinal hfinal]
      | false => exact ih (h.step hfinal)

/-- From every state that a request goes through, it comes to the same end. -/
theorem advanceBy_remaining (h : Reaches e today size tenant request s p) :
    Deletion.advanceBy e today size tenant request p.stage.remaining p =
      finish e today size tenant request s := by
  induction h with
  | start => rfl
  | @step p h hgoes ih =>
      have hless : (advance e today size tenant request p).stage.remaining < p.stage.remaining :=
        remaining_advance hgoes
      obtain ⟨n, hn⟩ : ∃ n, p.stage.remaining = n + 1 := ⟨p.stage.remaining - 1, by omega⟩
      rw [← ih, hn, Deletion.advanceBy]
      exact advanceBy_eq_of_le (Nat.le_refl _) (by omega)

/-- **A request comes to its end**, and to one end only. -/
theorem eq_finish (h : Reaches e today size tenant request s p) (hfinal : p.stage.isFinal = true) :
    p = finish e today size tenant request s := by
  rw [← h.advanceBy_remaining, advanceBy_of_isFinal hfinal]

end Reaches

theorem reaches_finish :
    Reaches e today size tenant request s (finish e today size tenant request s) :=
  Reaches.start.advanceBy _

theorem isFinal_finish : (finish e today size tenant request s).stage.isFinal = true :=
  isFinal_advanceBy (Nat.le_refl _)

/-! ### The invariant -/

/-- Targets of a request, of which there are some. -/
def Request.HasTargets (request : Request) (e : Engine) (today : Int) (s : Store)
    (tenant : String) (targets : Targets) : Prop :=
  request.targets e today s tenant = .ok targets ∧ targets.ids ≠ []

/-- **What a state knows** of a request on the store `s`, by its stage. -/
def Progress.Fits (e : Engine) (today : Int) (request : Request) (s : Store) (tenant : String)
    (p : Progress) : Prop :=
  match p.stage with
  | .start => p.store = s ∧ p.passed = []
  | .resolving => p.store = s ∧ p.passed = [.start]
  | .checking targets => p.store = s ∧ request.HasTargets e today s tenant targets
  | .cascading targets =>
    p.store = s ∧ request.HasTargets e today s tenant targets ∧ request.force = true
  | .deleting targets =>
    request.HasTargets e today s tenant targets ∧
      (p.store = s.released targets.ids ∧ request.force = true ∨
        p.store = s ∧ (targets.ids.any s.hasWorkflow = true →
          request.isMatching = true ∧ request.force = false))
  | .completed outcome =>
    outcome.deleted = 0 ∧ p.store = s ∧ p.passed = [.start, .resolving] ∨
      ∃ targets, request.HasTargets e today s tenant targets ∧
        outcome.deleted = targets.ids.length ∧ p.store = s.without targets.ids ∧
        .deleting targets ∈ p.passed
  | .aborted _ => True

/-! ### A step keeps to the rule -/

section

variable (hsize : 0 < size)
include hsize

theorem next?_resolving :
    request.next? e today s tenant .resolving = some (resolve e today size tenant request s) := by
  obtain ⟨selection, force⟩ := request
  cases selection with
  | explicit ids =>
      rw [resolve_explicit hsize]
      rfl
  | matching filter term =>
      simp only [Request.next?, Request.targets, Store.listIds, resolve]
      cases (Query.matching tenant filter term).run e today s with
      | error report => rfl
      | ok records => cases records <;> rfl

theorem next?_checking :
    request.next? e today s tenant (.checking targets) = some (check size request s targets) := by
  obtain ⟨selection, force⟩ := request
  cases selection with
  | explicit ids =>
      rw [check_explicit hsize]
      simp only [Request.next?, Request.isMatching]
      cases targets.ids.any s.hasWorkflow <;> cases force <;> rfl
  | matching filter term =>
      simp only [Request.next?, Request.isMatching, check]
      cases force <;> rfl

/-- To look up what a request means finds its targets, or ends the request. -/
theorem fits_resolve (cascaded : Option Nat) :
    Progress.Fits e today request s tenant
      ⟨resolve e today size tenant request s, s, [.start, .resolving], cascaded⟩ := by
  have hnext : request.next? e today s tenant .resolving =
      some (resolve e today size tenant request s) := next?_resolving hsize
  rw [← Option.some.inj hnext]
  cases htargets : request.targets e today s tenant with
  | error report => trivial
  | ok targets =>
      by_cases hnone : targets.ids = []
      · simp only [hnone, if_true]
        split
        · trivial
        · exact .inl ⟨rfl, rfl, rfl⟩
      · simp only [hnone, if_false]
        exact ⟨rfl, htargets, hnone⟩

/-- To decide about workflows finds out what deleting has to know. -/
theorem fits_check (h : request.HasTargets e today s tenant targets) (passed : List Stage)
    (cascaded : Option Nat) :
    Progress.Fits e today request s tenant ⟨check size request s targets, s, passed, cascaded⟩ := by
  have hnext : request.next? e today s tenant (.checking targets) =
      some (check size request s targets) := next?_checking hsize
  rw [← Option.some.inj hnext]
  split
  next hcascades =>
    rw [Bool.and_eq_true] at hcascades
    exact ⟨rfl, h, hcascades.1⟩
  next hfree =>
    split
    · trivial
    next hpasses =>
      refine ⟨h, .inr ⟨rfl, fun hheld => ?_⟩⟩
      rw [hheld] at hfree hpasses
      revert hfree hpasses
      cases request.isMatching <;> cases request.force <;> simp

variable (hs : (s.contacts.map (·.id)).Nodup)
include hs

omit hsize in
/-- **What deleting finds in the copy**, released before or not: it works as on the store, but meets
a contact in a workflow only if the request is for all matching contacts and not forced. -/
theorem Progress.Fits.deleting {copy : Store} {passed : List Stage} {cascaded : Option Nat}
    (h : Progress.Fits e today request s tenant ⟨.deleting targets, copy, passed, cascaded⟩) :
    (copy.contacts.map (·.id)).Nodup ∧ Settled copy tenant targets.ids ∧
      copy.without targets.ids = s.without targets.ids ∧
      targets.ids.any copy.hasWorkflow =
        (request.isMatching && !request.force && targets.ids.any s.hasWorkflow) := by
  obtain ⟨⟨htargets, -⟩, hcopy⟩ := h
  have hsettled := settled_targets hs htargets
  rcases hcopy with ⟨rfl, hforce⟩ | ⟨rfl, hheld⟩
  · refine ⟨hs, hsettled.released, without_released _, ?_⟩
    rw [hasWorkflow_released, hforce, Bool.not_true, Bool.and_false, Bool.false_and]
  · refine ⟨hs, hsettled, rfl, ?_⟩
    simp only at hheld ⊢
    cases hany : targets.ids.any copy.hasWorkflow with
    | true =>
        obtain ⟨hmatching, hforce⟩ := hheld hany
        rw [hmatching, hforce]
        rfl
    | false => rw [Bool.and_false]

/-- **A step keeps to the rule and keeps the invariant.** -/
theorem Progress.Fits.advance (h : p.Fits e today request s tenant)
    (hgoes : p.stage.isFinal = false) :
    let next := Deletion.advance e today size tenant request p
    request.next? e today s tenant p.stage = some next.stage ∧ next.Fits e today request s tenant ∧
      next.passed = p.passed ++ [p.stage] := by
  obtain ⟨stage, copy, passed, cascaded⟩ := p
  cases stage with
  | start =>
      obtain ⟨rfl, rfl⟩ : copy = s ∧ passed = [] := h
      exact ⟨rfl, ⟨rfl, rfl⟩, rfl⟩
  | resolving =>
      obtain ⟨rfl, rfl⟩ : copy = s ∧ passed = [.start] := h
      exact ⟨next?_resolving hsize, fits_resolve hsize _, rfl⟩
  | checking targets =>
      obtain ⟨rfl, htargets⟩ : copy = s ∧ request.HasTargets e today s tenant targets := h
      exact ⟨next?_checking hsize, fits_check hsize htargets _ _, rfl⟩
  | cascading targets =>
      obtain ⟨rfl, htargets, hforce⟩ :
        copy = s ∧ request.HasTargets e today s tenant targets ∧ request.force = true := h
      intro next
      have hnext : next = _ :=
        advance_cascading hsize (settled_targets hs htargets.1) passed cascaded
      rw [hnext]
      exact ⟨rfl, ⟨htargets, .inl ⟨rfl, hforce⟩⟩, rfl⟩
  | deleting targets =>
      obtain ⟨hids, hsettled, hleft, hheld⟩ := h.deleting hs
      intro next
      have hnext : next = _ := advance_deleting hsize hids hsettled passed cascaded
      rw [hheld, hleft] at hnext
      rw [hnext, Request.next?]
      split
      · exact ⟨rfl, trivial, rfl⟩
      · exact ⟨rfl, .inr ⟨targets, h.1, rfl, rfl, List.mem_append_right _ List.mem_cons_self⟩, rfl⟩
  | completed outcome => exact nomatch hgoes
  | aborted fault => exact nomatch hgoes

end

/-! ### The whole course -/

/-- What is true of every state that a request goes through. -/
structure Progress.Keeps (e : Engine) (today : Int) (request : Request) (s : Store)
    (tenant : String) (p : Progress) : Prop where
  fits : p.Fits e today request s tenant
  begins : p.stages.head? = some .start
  follows : p.stages.IsChain fun stage next => request.next? e today s tenant stage = some next
  goes : ∀ stage ∈ p.passed, stage.isFinal = false

section

variable (hsize : 0 < size) (hs : (s.contacts.map (·.id)).Nodup)
include hsize hs

/-- **Every state that a request goes through keeps to the rule.** -/
theorem Reaches.keeps (h : Reaches e today size tenant request s p) :
    p.Keeps e today request s tenant := by
  induction h with
  | start => exact ⟨⟨rfl, rfl⟩, rfl, .singleton _, nofun⟩
  | @step p h hgoes ih =>
      obtain ⟨hnext, hfits, hpassed⟩ := ih.fits.advance hsize hs hgoes
      have hstages : (advance e today size tenant request p).stages =
          p.stages ++ [(advance e today size tenant request p).stage] := by
        rw [Progress.stages, hpassed, Progress.stages]
      refine ⟨hfits, ?_, ?_, ?_⟩
      · rw [hstages, List.head?_append, ih.begins]
        rfl
      · rw [hstages, List.isChain_append]
        refine ⟨ih.follows, .singleton _, ?_⟩
        -- the new stage comes after the one that was the last
        rintro stage hstage next hlast
        rw [Progress.stages, List.getLast?_concat] at hstage
        obtain rfl := Option.some.inj hstage
        obtain rfl := Option.some.inj hlast
        exact hnext
      · rw [hpassed]
        intro stage hstage
        rcases List.mem_append.1 hstage with hstage | hstage
        · exact ih.goes stage hstage
        · rwa [List.mem_singleton.1 hstage]

omit hsize hs in
/-- A state that keeps to the rule and has come to the end has a course behind it. -/
theorem Progress.Keeps.isCourse (h : p.Keeps e today request s tenant)
    (hfinal : p.stage.isFinal = true) :
    request.IsCourse e today s tenant p.stages := by
  refine ⟨?_, h.follows, p.stage, List.getLast?_concat, ?_⟩
  · have hlast : p.stages.getLast? = some p.stage := List.getLast?_concat
    have hbegins := h.begins
    have hfollows := h.follows
    -- the first stage is not final, so a second one follows it
    generalize p.stages = stages at hlast hbegins hfollows
    cases stages with
    | nil => exact nomatch hbegins
    | cons first rest =>
        obtain rfl : first = .start := Option.some.inj hbegins
        cases rest with
        | nil =>
            rw [← Option.some.inj hlast] at hfinal
            exact nomatch hfinal
        | cons second rest =>
            obtain rfl : .resolving = second :=
              Option.some.inj (List.isChain_cons_cons.1 hfollows).1
            exact ⟨rest, rfl⟩
  · have hpassed : p.passed.filter Stage.isFinal = [] :=
      List.filter_eq_nil_iff.2 fun stage hstage => by simp [h.goes stage hstage]
    rw [Progress.stages, List.filter_append, hpassed, List.filter_singleton, hfinal]
    rfl

end

/-- A request that has completed has changed the copy exactly if it has deleted contacts, and this
it has exactly if it has come to the stage of deleting. -/
theorem Progress.Fits.completed (hs : (s.contacts.map (·.id)).Nodup)
    (h : p.Fits e today request s tenant) {outcome : Outcome}
    (hstage : p.stage = .completed outcome) :
    (p.store ≠ s ↔ 0 < outcome.deleted) ∧
      (0 < outcome.deleted ↔ ∃ targets, .deleting targets ∈ p.stages) := by
  obtain ⟨stage, copy, passed, cascaded⟩ := p
  obtain rfl : stage = .completed outcome := hstage
  rcases h with ⟨hzero, hsame, hpassed⟩ | ⟨targets, ⟨htargets, hsome⟩, hcount, hleft, hmem⟩
  · obtain rfl : copy = s := hsame
    obtain rfl : passed = [.start, .resolving] := hpassed
    simp [hzero, Progress.stages]
  · obtain rfl : copy = s.without targets.ids := hleft
    have hpos : 0 < outcome.deleted := by
      rw [hcount]
      exact List.length_pos_iff.2 hsome
    have hsettled := settled_targets hs htargets
    have hless := hsettled.length_contacts_without hs
    have hchanged : s.without targets.ids ≠ s := by
      intro hsame
      rw [hsame] at hless
      omega
    exact ⟨⟨fun _ => hpos, fun _ => hchanged⟩,
      ⟨fun _ => ⟨targets, List.mem_append_left _ hmem⟩, fun _ => hpos⟩⟩

/-- **The store changes exactly if the request completes and has deleted contacts.** -/
theorem run_store_ne_iff (hs : (s.contacts.map (·.id)).Nodup) :
    (run e today s tenant request).2 ≠ s ↔ ∃ outcome,
      (finish e today batchSize tenant request s).stage = .completed outcome ∧
        0 < outcome.deleted := by
  have hkeeps : (finish e today batchSize tenant request s).Keeps e today request s tenant :=
    reaches_finish.keeps (by decide) hs
  rw [run]
  generalize finish e today batchSize tenant request s = p at hkeeps
  cases hstage : p.stage with
  | completed outcome =>
      have hstore : p.storeAfter s = p.store := by rw [Progress.storeAfter, hstage]
      rw [hstore, (hkeeps.fits.completed hs hstage).1]
      simp
  | _ => simp [Progress.storeAfter, hstage]

/-- **A request ends, and its stages are those of the rule.**  The request goes through its stages
to one end, which is final.  The stages that it was in are the only course by the rule.  When it
deletes workflow states, it deletes exactly those of its targets, and goes on to delete the
contacts.  And the store changes exactly if the request completes after that and has deleted
contacts. -/
theorem course_finish {s : Store} (hs : s.Reachable) (e : Engine) (today : Int) (tenant : String)
    (request : Request) :
    let Reached := Reaches e today batchSize tenant request s
    let done := finish e today batchSize tenant request s
    (Reached done ∧ done.stage.isFinal = true ∧
        ∀ p, Reached p → p.stage.isFinal = true → p = done) ∧
      (request.IsCourse e today s tenant done.stages ∧
        ∀ stages, request.IsCourse e today s tenant stages → stages = done.stages) ∧
      (∀ p targets, Reached p → p.stage = .cascading targets →
        let next := advance e today batchSize tenant request p
        p.store = s ∧ next.stage = .deleting targets ∧ next.store = s.released targets.ids ∧
          next.cascaded =
            some (s.workflowStates.countP fun w => targets.ids.contains w.contactId)) ∧
      ((run e today s tenant request).2 ≠ s ↔
        ∃ outcome, done.stage = .completed outcome ∧ 0 < outcome.deleted) ∧
      ∀ outcome, done.stage = .completed outcome →
        (0 < outcome.deleted ↔ ∃ targets, .deleting targets ∈ done.stages) := by
  intro Reached done
  have hsize : 0 < batchSize := by decide
  have hids := hs.integrity.contact_ids
  have hcourse : request.IsCourse e today s tenant done.stages :=
    (reaches_finish.keeps hsize hids).isCourse isFinal_finish
  refine ⟨⟨reaches_finish, isFinal_finish, fun p h hfinal => h.eq_finish hfinal⟩,
    ⟨hcourse, fun stages h => h.eq hcourse⟩, ?_, run_store_ne_iff hids,
      fun outcome hstage =>
        ((reaches_finish.keeps hsize hids).fits.completed hids hstage).2⟩
  rintro ⟨stage, copy, passed, cascaded⟩ targets h rfl
  obtain ⟨rfl, htargets, -⟩ :
    copy = s ∧ request.HasTargets e today s tenant targets ∧ request.force = true :=
      (h.keeps hsize hids).fits
  intro next
  have hnext : next = _ :=
    advance_cascading hsize (settled_targets hids htargets.1) passed cascaded
  rw [hnext]
  exact ⟨rfl, rfl, rfl, rfl⟩

/-- A forced request that names contacts of which one is in a workflow goes through every stage and
changes the store.  An unforced one for all matching contacts comes to delete the contact in the
workflow, fails and leaves the store. -/
theorem course_finish_twoOffices :
    let s := Store.twoOffices
    let forced : Request := ⟨.explicit ["a1", "zz", "a2"], true⟩
    let vip : Option Filter := some ⟨[⟨"tags", .equals, "vip"⟩], .all⟩
    let matching : Request := ⟨.matching vip (some "adams"), false⟩
    let course := fun request => (finish .builtIn newYear batchSize "acme" request s).stages
    s.Reachable ∧
      (course forced).map Stage.name = ["Start", "ResolvingTargets", "CheckingDependents",
        "CascadingDeletes", "Deleting", "Completed"] ∧
      forced.IsCourse .builtIn newYear s "acme" (course forced) ∧
      (run .builtIn newYear s "acme" forced).2 ≠ s ∧
      (course matching).map Stage.name =
        ["Start", "ResolvingTargets", "CheckingDependents", "Deleting", "Aborted"] ∧
      matching.IsCourse .builtIn newYear s "acme" (course matching) ∧
      (run .builtIn newYear s "acme" matching).2 = s := by
  intro s forced vip matching course
  have hs : s.Reachable := Store.reachable_twoOffices
  obtain ⟨-, ⟨hforced, -⟩, -, hchanges, -⟩ := course_finish hs .builtIn newYear "acme" forced
  obtain ⟨-, ⟨hmatching, -⟩, -, hchanges', -⟩ := course_finish hs .builtIn newYear "acme" matching
  have hcompleted : (finish .builtIn newYear batchSize "acme" forced s).stage =
      .completed ⟨2, 1⟩ := by
    decide +kernel
  have haborted : (finish .builtIn newYear batchSize "acme" matching s).stage =
      .aborted (.ofReport inWorkflow) := by decide +kernel
  refine ⟨hs, by decide +kernel, hforced, hchanges.2 ⟨_, hcompleted, Nat.two_pos⟩,
    by decide +kernel, hmatching, ?_⟩
  by_contra hne
  obtain ⟨outcome, hstage, -⟩ := hchanges'.1 hne
  exact nomatch haborted.symm.trans hstage

end ContactBook.Deletion
