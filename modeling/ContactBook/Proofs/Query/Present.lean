/-
**The present day.**

A filter can ask for the contacts of the present day, and then it asks for other contacts tomorrow.
So what a listing shows depends on the day on which it is asked for, and this module says how far:
only the words for the present day tell one day from another.  If a filter has no such word where
days are compared, and neither has a time that the store keeps, then the whole answer is the same on
any two days, a failure included.

Main definitions:

* `ContactBook.Filter.asksToday`, `ContactBook.Store.keepsToday` — whether a word for the present
  day comes up;
* `ContactBook.Store.SameOn` — **when a filter means the same on two days**.

Main results:

* `ContactBook.Query.exists_condition_of_mem_matching` — the tests of an assembled query, each with
  the condition that it was made for;
* `ContactBook.Query.run_matching_eq_of_sameOn` — **then it is answered in the same way**.
-/

import ContactBook.Proofs.Query.Dependence

set_option autoImplicit false

namespace ContactBook

/-! ### Words for the present day -/

/-- Whether a condition asks for the present day: that a time equals a word for it. -/
def Condition.asksToday (c : Condition) : Bool :=
  c.operator == .equals && Calendar.namesPresent c.value &&
    match Field.named? c.field with
    | some (.own _ .date) => true
    | _ => false

/-- Whether some condition of a filter asks for the present day. -/
def Filter.asksToday (f : Filter) : Bool := f.conditions.any Condition.asksToday

/-- The columns for times. -/
def Column.times : List Column := [.createdAt, .updatedAt, .lastActivityAt]

/-- Whether a time that the store keeps is a word for the present day. -/
def Store.keepsToday (s : Store) : Bool :=
  s.contacts.any fun r => Column.times.any fun c => (r.text? c).any Calendar.namesPresent

/-- **When a filter means the same on two days**: they are one day, or there is no word for the
present day in the filter, nor among the times that the store keeps. -/
def Store.SameOn (s : Store) (filter : Option Filter) (day day' : Int) : Prop :=
  day = day' ∨ filter.any Filter.asksToday = false ∧ s.keepsToday = false

/-- Fields of times are in columns for times. -/
theorem Field.mem_times_of_named? {name : String} {column : Column}
    (h : named? name = some (.own column .date)) : column ∈ Column.times := by
  have hregistered : Field.own column .date ∈ registered := List.mem_of_find?_eq_some h
  simpa [registered, Column.times] using hregistered

namespace Query

variable {e : Engine} {day day' : Int} {s : Store} {r : Record} {tenant : String}
  {filter : Option Filter} {term : Option String}

/-! ### The tests of an assembled query -/

/-- Whether a test was made for a condition on a field: it looks there, in the way of the condition,
and its slot leads to the value of the condition. -/
structure Test.IsMadeFor (t : Test) (q : Query) (field : Field) (c : Condition) : Prop where
  operand : t.operand = operandOf field
  comparison : t.comparison = comparisonOf field c.operator
  value : q.value t.slot = c.bound

/-- A group adds to the tests of a query its own, and their slots lead to the values of the group.
-/
theorem mem_groups_andGroup {q : Query} {g : Group} {j : Junction}
    (hj : j ∈ (q.andGroup g).groups) : j ∈ q.groups ∨ ∀ t ∈ j.tests, ∃ u ∈ g.junction.tests,
      t.operand = u.operand ∧ t.comparison = u.comparison ∧
        (q.andGroup g).value t.slot = (⟨[], g.binds⟩ : Query).value u.slot := by
  by_cases hg : g.junction.tests = []
  · rw [andGroup_of_isEmpty hg] at hj
    exact .inl hj
  · rw [andGroup_of_ne_nil hg] at hj ⊢
    refine (List.mem_append.1 hj).imp id fun hj t ht => ?_
    rw [List.mem_singleton.1 hj] at ht
    obtain ⟨u, hu, rfl⟩ := List.mem_map.1 ht
    exact ⟨u, hu, rfl, rfl, value_append_right⟩

/-- The values of a query stay when a group is added. -/
theorem value_andGroup {q : Query} {g : Group} {slot : Nat} (h : slot < q.binds.length) :
    (q.andGroup g).value slot = q.value slot := by
  by_cases hg : g.junction.tests = []
  · rw [andGroup_of_isEmpty hg]
  · rw [andGroup_of_ne_nil hg]
    exact value_append_left h

/-- The tests of a compiled filter were made for its conditions. -/
theorem exists_condition_of_mem_compile {j : Junction} (hj : j ∈ (compile tenant filter).groups)
    {t : Test} (ht : t ∈ j.tests) : ∃ f ∈ filter, ∃ p ∈ registered f,
      t.IsMadeFor (compile tenant filter) p.1 p.2 := by
  cases filter with
  | none => exact absurd hj List.not_mem_nil
  | some f =>
      rcases mem_groups_andGroup hj with hj | hnew
      · exact absurd hj List.not_mem_nil
      · obtain ⟨u, hu, hoperand, hcomparison, hvalue⟩ := hnew t ht
        obtain ⟨i, p, hp, rfl⟩ := mem_testsFrom_iff.1 hu
        exact ⟨f, rfl, p, List.mem_of_getElem? hp, hoperand, hcomparison,
          hvalue.trans (value_ofFilter hp)⟩

/-- **The tests of an assembled query** look for the pattern of the search term, or were made for
conditions of the filter. -/
theorem exists_condition_of_mem_matching {j : Junction}
    (hj : j ∈ (matching tenant filter term).groups) {t : Test} (ht : t ∈ j.tests) :
    t.comparison = .like ∨ ∃ f ∈ filter, ∃ p ∈ registered f,
      t.IsMadeFor (matching tenant filter term) p.1 p.2 := by
  cases term with
  | none => exact .inr (exists_condition_of_mem_compile hj ht)
  | some term =>
      rw [matching, search] at hj ⊢
      by_cases hblank : Text.trim term = ""
      · rw [ofSearch?_of_blank hblank] at hj ⊢
        exact .inr (exists_condition_of_mem_compile hj ht)
      · rw [ofSearch?_of_not_blank hblank] at hj ⊢
        rcases mem_groups_andGroup hj with hj | hnew
        · obtain ⟨f, hf, p, hp, hmade⟩ := exists_condition_of_mem_compile hj ht
          have hslot := (inRange_compile tenant filter).slot_lt j hj t ht
          exact .inr ⟨f, hf, p, hp, hmade.operand, hmade.comparison,
            (value_andGroup hslot).trans hmade.value⟩
        · obtain ⟨u, hu, -, hcomparison, -⟩ := hnew t ht
          obtain ⟨column, -, rfl⟩ := List.mem_map.1 hu
          exact .inl hcomparison

/-! ### Two days -/

/-- Only comparisons of days depend on the day. -/
theorem compare_eq_of_ne_sameDay {c : Comparison} (h : c ≠ .sameDay) (day day' : Int) :
    c.compare day = c.compare day' := by
  cases c with
  | sameDay => exact absurd rfl h
  | _ => rfl

/-- And they do not, if neither text is a word for the present day. -/
theorem compare_eq_of_not_namesPresent {c : Comparison} {text value : String}
    (htext : Calendar.namesPresent text = false) (hvalue : Calendar.namesPresent value = false) :
    c.compare day text value = c.compare day' text value := by
  unfold Comparison.compare
  rw [Calendar.dayOf?_eq_of_not_namesPresent htext day day',
    Calendar.dayOf?_eq_of_not_namesPresent hvalue day day']

theorem truth_test_eq_of_ne_sameDay {q : Query} {t : Test} (h : t.comparison ≠ .sameDay) :
    t.truth day q s r = t.truth day' q s r := by
  simp only [Test.truth, compare_eq_of_ne_sameDay h day day']

/-- Days are compared where a condition asks that a time equals a value. -/
theorem comparisonOf_eq_sameDay_iff {field : Field} {operator : Operator} :
    comparisonOf field operator = .sameDay ↔
      (∃ column, field = .own column .date) ∧ operator = .equals := by
  cases field with
  | tags => cases operator <;> simp [comparisonOf]
  | own column kind => cases kind <;> cases operator <;> simp [comparisonOf]

/-- What a test says of a contact is the same on two days on which the filter means the same. -/
theorem truth_test_eq_of_sameOn (h : s.SameOn filter day day') (hr : r ∈ s.contacts)
    {j : Junction} (hj : j ∈ (matching tenant filter term).groups) {t : Test} (ht : t ∈ j.tests) :
    t.truth day (matching tenant filter term) s r =
      t.truth day' (matching tenant filter term) s r := by
  rcases h with rfl | ⟨hfilter, hstore⟩
  · rfl
  by_cases hday : t.comparison = .sameDay
  case neg => exact truth_test_eq_of_ne_sameDay hday
  rcases exists_condition_of_mem_matching hj ht with hlike | ⟨f, hf, p, hp, hmade⟩
  · exact absurd (hlike.symm.trans hday) (by decide)
  -- neither the time in the column nor the value of the condition depends on the day
  obtain ⟨⟨column, hfield⟩, hequals⟩ := comparisonOf_eq_sameDay_iff.1 (hmade.comparison ▸ hday)
  obtain ⟨hc, hnamed⟩ := mem_registered_iff.1 hp
  rw [hfield] at hnamed
  have hvalue : Calendar.namesPresent ((matching tenant filter term).value t.slot) = false := by
    have hbound : p.2.bound = p.2.value := by rw [Condition.bound, hequals, Operator.bound]
    obtain rfl : filter = some f := hf
    rw [hmade.value, hbound]
    rw [Option.any_some, Filter.asksToday, List.any_eq_false] at hfilter
    simpa [Condition.asksToday, hequals, hnamed] using hfilter p.2 hc
  have hoperand : t.operand = .column column := by rw [hmade.operand, hfield, operandOf]
  simp only [Test.truth, hoperand, hday]
  cases htext : r.text? column with
  | none => rfl
  | some text =>
      have hkept : Calendar.namesPresent text = false := by
        rw [Store.keepsToday, List.any_eq_false] at hstore
        have hcolumns := hstore r hr
        rw [List.any_eq_true, not_exists] at hcolumns
        have hcolumn := hcolumns column
        simpa [Field.mem_times_of_named? hnamed, htext] using hcolumn
      exact compare_eq_of_not_namesPresent hkept hvalue

/-- A query selects the same contacts if its tests say the same of them. -/
theorem selects_congr {q : Query}
    (h : ∀ j ∈ q.groups, ∀ t ∈ j.tests, t.truth day q s r = t.truth day' q s r) :
    q.selects day s r = q.selects day' s r := by
  have hgroups : q.groups.map (Junction.truth day q s r) =
      q.groups.map (Junction.truth day' q s r) := by
    refine List.map_congr_left fun j hj => ?_
    simp only [Junction.truth, List.map_congr_left (h j hj)]
  simp only [selects, truth, hgroups]

/-- A query is answered in the same way on two days on which its tests say the same of all contacts,
by any engine: with the same contacts in the same order, or with the same failure. -/
theorem run_congr {q : Query} (h : ∀ r ∈ s.contacts, ∀ j ∈ q.groups, ∀ t ∈ j.tests,
    t.truth day q s r = t.truth day' q s r) : q.run e day s = q.run e day' s := by
  have hselects : s.contacts.filter (q.selects day s) = s.contacts.filter (q.selects day' s) :=
    List.filter_congr fun r hr => selects_congr (h r hr)
  have htrips : s.contacts.any (q.trips e day s) = s.contacts.any (q.trips e day' s) := by
    rw [Bool.eq_iff_iff, List.any_eq_true, List.any_eq_true]
    refine exists_congr fun r => and_congr_right fun hr => ?_
    rw [trips, trips, e.trips_congr (.refl _) (h r hr)]
  simp only [run, hselects, htrips]

/-- **An assembled query is answered in the same way on two days on which its filter means the
same.** -/
theorem run_matching_eq_of_sameOn (h : s.SameOn filter day day') :
    (matching tenant filter term).run e day s = (matching tenant filter term).run e day' s :=
  run_congr fun _ hr _ hj _ ht => truth_test_eq_of_sameOn h hr hj ht

/-- A query for a whole organisation does not ask for days. -/
theorem run_ofTenant_eq (day day' : Int) :
    (ofTenant tenant).run e day s = (ofTenant tenant).run e day' s :=
  run_congr fun _ _ _ hj => absurd hj List.not_mem_nil

end Query

end ContactBook
