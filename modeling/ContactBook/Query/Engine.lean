/-
**The engine of the program.**

This engine tries the parts of a conjunction one after the other and stops at the first that is not
`yes`; in a disjunction it stops at the first test that is.  A pattern that is too large makes it
fail, but only where the pattern is really tried: at a column, even if the text there is missing, or
at the name of a tag.  So it matters what is tried first.

Where a part of the conjunction asks for one text in a column, that text stands for the column in
all other tests of patterns and texts.  A part that looks at no column any more is tried once,
before any contact is.  At a contact the parts that look at tags come last.

Main definitions:

* `ContactBook.Query.Test.constant?` — the text that stands for the column of a test;
* `ContactBook.Query.tryConstants`, `tryAt` — trying a query before and at a contact;
* `ContactBook.Engine.builtIn` — **the engine**.

Main result:

* `ContactBook.Query.tryAt_congr` — what trying a query at a contact depends on.
-/

import ContactBook.Query.Answer

set_option autoImplicit false

namespace ContactBook

namespace Query

/-! ### Constants -/

/-- The parts of the conjunction that a query is, each a disjunction of tests. -/
def conjuncts (q : Query) : List (List Test) :=
  q.groups.flatMap fun j =>
    match j.connective with
    | .all => j.tests.map fun t => [t]
    | .any => [j.tests]

/-- The column that a part of a conjunction settles, and the slot of the text in it. -/
def settles? : List Test → Option (Column × Nat)
  | [⟨.column c, .equals, slot⟩] => some (c, slot)
  | _ => none

/-- The slot of the text to which a column is settled.  Where several parts settle it, the last of
them counts. -/
def settledSlot? (q : Query) (c : Column) : Option Nat :=
  ((q.conjuncts.filterMap settles?).reverse.find? fun p => p.1 == c).map Prod.snd

/-- The text that stands for the column of a test; for the test that settles the column there is
none. -/
def Test.constant? (q : Query) (t : Test) : Option String :=
  match t.operand, t.comparison with
  | .column c, .like => (q.settledSlot? c).map q.value
  | .column c, .equals => ((q.settledSlot? c).filter (· != t.slot)).map q.value
  | _, _ => none

/-- Whether a part of a conjunction looks at no column. -/
def isConstant (q : Query) (tests : List Test) : Bool := tests.all fun t => (t.constant? q).isSome

/-! ### Trying tests -/

/-- Whether the pattern of a test is too large. -/
def Test.isTooLarge (q : Query) (t : Test) : Bool :=
  t.comparison == .like && Text.Pattern.tooLarge (q.value t.slot)

/-- Tries a test with a text that stands for its column: whether it is `yes`, unless it fails. -/
def Test.tryText (q : Query) (text : String) (t : Test) : Option Bool :=
  if t.isTooLarge q then none
  else some <|
    match t.comparison with
    | .like => Text.Pattern.accepts (q.value t.slot) text
    | _ => text == q.value t.slot

/-- Tries a test at a contact. -/
def Test.tryAt (today : Int) (q : Query) (s : Store) (r : Record) (t : Test) : Option Bool :=
  match t.constant? q with
  | some text => t.tryText q text
  | none =>
    if t.isTooLarge q && (t.operand != .tagName || !(s.tagNames r.id).isEmpty) then none
    else some (t.truth today q s r).holds

/-- Tries the tests of a disjunction in turn, up to the first that is `yes` or fails. -/
def tryAny (attempt : Test → Option Bool) : List Test → Option Bool
  | [] => some false
  | t :: rest =>
    match attempt t with
    | some false => tryAny attempt rest
    | result => result

/-- Tries the parts of a conjunction in turn, up to the first that is not `yes`. -/
def tryAll (attempt : Test → Option Bool) : List (List Test) → Option Bool
  | [] => some true
  | tests :: rest =>
    match tryAny attempt tests with
    | some true => tryAll attempt rest
    | result => result

/-- Tries the parts of a query that look at no column. -/
def tryConstants (q : Query) : Option Bool :=
  tryAll (fun t => t.tryText q ((t.constant? q).getD "")) (q.conjuncts.filter q.isConstant)

/-- The other parts of a query in the order in which they are tried at a contact. -/
def inOrder (q : Query) : List (List Test) :=
  let (late, early) := (q.conjuncts.filter fun tests => !q.isConstant tests).partition fun tests =>
    tests.any Test.mentionsTags
  early ++ late

/-- Tries these parts of a query at a contact. -/
def tryAt (q : Query) (today : Int) (s : Store) (r : Record) : Option Bool :=
  tryAll (Test.tryAt today q s r) q.inOrder

/-! ### What trying depends on -/

theorem tryAny_congr {attempt attempt' : Test → Option Bool} {tests : List Test}
    (h : ∀ t ∈ tests, attempt t = attempt' t) : tryAny attempt tests = tryAny attempt' tests := by
  induction tests with
  | nil => rfl
  | cons t tests ih =>
      rw [tryAny, tryAny, h t List.mem_cons_self,
        ih fun t' ht' => h t' (List.mem_cons_of_mem _ ht')]

theorem tryAll_congr {attempt attempt' : Test → Option Bool} {parts : List (List Test)}
    (h : ∀ tests ∈ parts, ∀ t ∈ tests, attempt t = attempt' t) :
    tryAll attempt parts = tryAll attempt' parts := by
  induction parts with
  | nil => rfl
  | cons tests parts ih =>
      rw [tryAll, tryAll, tryAny_congr (h tests List.mem_cons_self),
        ih fun tests' h' => h tests' (List.mem_cons_of_mem _ h')]

/-- Tests that do not fail make up parts that do not fail. -/
theorem isSome_tryAny {attempt : Test → Option Bool} {tests : List Test}
    (h : ∀ t ∈ tests, (attempt t).isSome = true) : (tryAny attempt tests).isSome = true := by
  induction tests with
  | nil => rfl
  | cons t tests ih =>
      obtain ⟨yes, hyes⟩ := Option.isSome_iff_exists.1 (h t List.mem_cons_self)
      have hrest := ih fun t' ht' => h t' (List.mem_cons_of_mem _ ht')
      rw [tryAny, hyes]
      cases yes with
      | false => exact hrest
      | true => rfl

theorem isSome_tryAll {attempt : Test → Option Bool} {parts : List (List Test)}
    (h : ∀ tests ∈ parts, ∀ t ∈ tests, (attempt t).isSome = true) :
    (tryAll attempt parts).isSome = true := by
  induction parts with
  | nil => rfl
  | cons tests parts ih =>
      obtain ⟨yes, hyes⟩ :=
        Option.isSome_iff_exists.1 (isSome_tryAny (h tests List.mem_cons_self))
      have hrest := ih fun tests' h' => h tests' (List.mem_cons_of_mem _ h')
      rw [tryAll, hyes]
      cases yes with
      | false => rfl
      | true => exact hrest

/-- The parts of the conjunction are made of the tests of the groups. -/
theorem exists_group_of_mem_conjuncts {q : Query} {tests : List Test} (h : tests ∈ q.conjuncts)
    {t : Test} (ht : t ∈ tests) : ∃ j ∈ q.groups, t ∈ j.tests := by
  obtain ⟨j, hj, hpart⟩ := List.mem_flatMap.1 h
  refine ⟨j, hj, ?_⟩
  cases hc : j.connective with
  | all =>
      rw [hc] at hpart
      obtain ⟨t', ht', rfl⟩ := List.mem_map.1 hpart
      obtain rfl := List.mem_singleton.1 ht
      exact ht'
  | any =>
      rw [hc] at hpart
      obtain rfl := List.mem_singleton.1 hpart
      exact ht

/-- What is tried at a contact is made of them as well. -/
theorem exists_group_of_mem_inOrder {q : Query} {tests : List Test} (h : tests ∈ q.inOrder)
    {t : Test} (ht : t ∈ tests) : ∃ j ∈ q.groups, t ∈ j.tests := by
  simp only [inOrder, List.partition_eq_filter_filter, List.mem_append, List.mem_filter] at h
  exact exists_group_of_mem_conjuncts (h.elim (·.1.1) (·.1.1)) ht

/-- **What trying a query at a contact depends on**: how the tests come out there, and whether the
contact has tags. -/
theorem tryAt_congr {q : Query} {today today' : Int} {s s' : Store} {r : Record}
    (htags : (s.tagNames r.id).Perm (s'.tagNames r.id))
    (h : ∀ j ∈ q.groups, ∀ t ∈ j.tests, t.truth today q s r = t.truth today' q s' r) :
    q.tryAt today s r = q.tryAt today' s' r := by
  refine tryAll_congr fun tests htests t ht => ?_
  obtain ⟨j, hj, hmem⟩ := exists_group_of_mem_inOrder htests ht
  rw [Test.tryAt, Test.tryAt, h j hj t hmem, htags.isEmpty_eq]

/-! ### Queries without patterns -/

theorem isTooLarge_eq_false {q : Query} (h : q.hasPatterns = false) {j : Junction}
    (hj : j ∈ q.groups) {t : Test} (ht : t ∈ j.tests) : t.isTooLarge q = false := by
  simp only [hasPatterns, List.any_eq_false] at h
  have hcomparison := h j hj
  simp only [List.any_eq_true, not_exists, not_and] at hcomparison
  simp [Test.isTooLarge, hcomparison t ht]

/-- A query without patterns does not fail before contacts are looked at. -/
theorem isSome_tryConstants {q : Query} (h : q.hasPatterns = false) :
    q.tryConstants.isSome = true := by
  refine isSome_tryAll fun tests htests t ht => ?_
  obtain ⟨j, hj, hmem⟩ := exists_group_of_mem_conjuncts (List.mem_filter.1 htests).1 ht
  simp [Test.tryText, isTooLarge_eq_false h hj hmem]

/-- Nor does it fail at a contact. -/
theorem isSome_tryAt {q : Query} (h : q.hasPatterns = false) (today : Int) (s : Store)
    (r : Record) : (q.tryAt today s r).isSome = true := by
  refine isSome_tryAll fun tests htests t ht => ?_
  obtain ⟨j, hj, hmem⟩ := exists_group_of_mem_inOrder htests ht
  have hsmall := isTooLarge_eq_false h hj hmem
  unfold Test.tryAt
  split
  · simp [Test.tryText, hsmall]
  · simp [hsmall]

/-- The report of a condition that is nested too deep. -/
def tooDeep : Report := .failure 1 "Expression tree is too large (maximum depth 1000)"

end Query

/-- **The engine of the program.**  It refuses a condition that is nested too deep or that fails
before contacts are looked at; and if nothing was settled by then, it may fail at a contact. -/
def Engine.builtIn : Engine where
  refusal? q :=
    if Query.maxDepth < q.depth then some Query.tooDeep
    else if q.tryConstants.isNone then some Query.tooComplex
    else none
  trips today q s r := q.tryConstants == some true && (q.tryAt today s r).isNone
  trips_congr htags h := by rw [Query.tryAt_congr htags h]
  refusal?_eq_none := by
    intro q h hdepth
    have hsome := Option.isNone_eq_false_iff.2 (Query.isSome_tryConstants h)
    rw [if_neg (Nat.not_lt.2 hdepth), hsome, if_neg Bool.false_ne_true]
  trips_eq_false := by
    intro q today s r h
    rw [Option.isNone_eq_false_iff.2 (Query.isSome_tryAt h today s r), Bool.and_false]

end ContactBook
