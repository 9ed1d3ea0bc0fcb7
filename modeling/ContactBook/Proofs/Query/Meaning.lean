/-
**What a query means.**

A query is assembled from groups of tests that find their values by slots, and it is answered with
three truth values.  Neither is visible in what it selects.  This module says in two values what a
filter and a search term mean for one contact, and proves that the assembled query selects exactly
the contacts that are meant: no slot points at the value of another condition, and a missing text
satisfies nothing, whatever it is joined with.

Main definitions:

* `ContactBook.Condition.Accepts` — whether a text satisfies a condition on a field;
* `ContactBook.Store.Holds` — the texts that a contact has in a field;
* `ContactBook.Store.Means` — **the reference**: what a filter and a search term mean.

Main results:

* `ContactBook.Query.selects_andGroup` — a further group narrows a query by what the group says for
  itself, and leaves what the earlier groups say alone;
* `ContactBook.Query.selects_matching_iff` — the query selects the contacts that are meant;
* `ContactBook.Query.run_eq_ok_iff` — when there is an answer, and what it is;
* `ContactBook.Store.list_eq_ok_iff`, `listIds_of_list` — what listings of contacts and of ids show.
-/

import ContactBook.Listing
import ContactBook.Proofs.Json.Written
import ContactBook.Proofs.List
import ContactBook.Query.Engine

set_option autoImplicit false

namespace ContactBook

/-! ### The reference -/

/-- Whether a text satisfies a condition on a field, when it is `today`.  Of times, equality
compares the days. -/
def Condition.Accepts (c : Condition) (today : Int) (field : Field) (text : String) : Prop :=
  match field, c.operator with
  | .own _ .date, .equals =>
    ∃ day, Calendar.dayOf? today text = some day ∧ Calendar.dayOf? today c.value = some day
  | _, .equals => text = c.value
  | _, _ => Text.Pattern.accepts c.bound text = true

/-- The texts that a contact has in a field: the one in its column, if it is not missing, or the
names of the tags that are linked to it. -/
inductive Store.Holds (s : Store) (r : Record) : Field → String → Prop
  | own {column : Column} {kind : ValueKind} {text : String} (h : r.text? column = some text) :
      Store.Holds s r (.own column kind) text
  | tag {link : Link} {tag : Tag} (hl : link ∈ s.links) (hc : link.contactId = r.id)
      (ht : tag ∈ s.tags) (hi : tag.id = link.tagId) : Store.Holds s r .tags tag.name

/-- Whether some text that a contact has in a field satisfies a condition. -/
def Store.Satisfies (s : Store) (today : Int) (r : Record) (field : Field) (c : Condition) : Prop :=
  ∃ text, s.Holds r field text ∧ c.Accepts today field text

/-- Whether a contact passes a filter.  Conditions on fields that are not registered do not count,
and a filter without others lets every contact pass. -/
def Store.Passes (s : Store) (today : Int) (r : Record) (f : Filter) : Prop :=
  (∀ c ∈ f.conditions, Field.named? c.field = none) ∨
    match f.connective with
    | .all =>
      ∀ c ∈ f.conditions, ∀ field, Field.named? c.field = some field → s.Satisfies today r field c
    | .any =>
      ∃ c ∈ f.conditions, ∃ field, Field.named? c.field = some field ∧ s.Satisfies today r field c

/-- A filter with one condition on a registered field lets the contacts pass that satisfy it. -/
theorem Store.passes_singleton_iff {s : Store} {today : Int} {r : Record} {field : Field}
    {c : Condition} {connective : Connective} (hfield : Field.named? c.field = some field) :
    s.Passes today r ⟨[c], connective⟩ ↔ s.Satisfies today r field c := by
  have hsame : ∀ {c' field'}, c' ∈ [c] → Field.named? c'.field = some field' →
      c' = c ∧ field' = field := by
    intro c' field' hc' hfield'
    obtain rfl := List.mem_singleton.1 hc'
    exact ⟨rfl, Option.some.inj (hfield'.symm.trans hfield)⟩
  constructor
  · rintro (hnone | h)
    · exact absurd (hnone c List.mem_cons_self) (by simp [hfield])
    · cases connective with
      | all => exact h c List.mem_cons_self field hfield
      | any =>
          obtain ⟨c', hc', field', hfield', h⟩ := h
          obtain ⟨rfl, rfl⟩ := hsame hc' hfield'
          exact h
  · intro h
    refine .inr ?_
    cases connective with
    | all =>
        intro c' hc' field' hfield'
        obtain ⟨rfl, rfl⟩ := hsame hc' hfield'
        exact h
    | any => exact ⟨c, List.mem_cons_self, field, hfield, h⟩

/-- Whether a search term is found in a contact; a blank one is found in all. -/
def Record.Mentions (r : Record) (term : String) : Prop :=
  Text.trim term = "" ∨
    ∃ column ∈ [Column.firstName, .lastName, .email, .leadStatus, .title, .currentCompanyName],
      ∃ text, r.text? column = some text ∧
        Text.Pattern.accepts (Text.Pattern.containing (Text.trim term)) text = true

/-- **What a filter and a search term mean** for a contact of an organisation, when it is `today`.
-/
structure Store.Means (s : Store) (today : Int) (tenant : String) (filter : Option Filter)
    (term : Option String) (r : Record) : Prop where
  /-- The contact belongs to the organisation. -/
  tenant_eq : r.organizationId = tenant
  /-- It passes the filter, if there is one. -/
  passes : ∀ f ∈ filter, s.Passes today r f
  /-- The search term is found in it, if there is one. -/
  mentions : ∀ t ∈ term, r.Mentions t

namespace Query

variable {today : Int} {s : Store} {r : Record}

/-! ### One test -/

theorem holds_compare_equals {text value : String} :
    (Comparison.equals.compare today text value).holds = true ↔ text = value := by
  change (Truth.ofBool (text == value)).holds = true ↔ _
  rw [Truth.holds_ofBool, beq_iff_eq]

theorem holds_compare_like {text value : String} :
    (Comparison.like.compare today text value).holds = true ↔
      Text.Pattern.accepts value text = true := by
  change (Truth.ofBool (Text.Pattern.accepts value text)).holds = true ↔ _
  rw [Truth.holds_ofBool]

/-- Days are equal when both are there and the same. -/
theorem holds_compare_sameDay {text value : String} :
    (Comparison.sameDay.compare today text value).holds = true ↔
      ∃ day, Calendar.dayOf? today text = some day ∧ Calendar.dayOf? today value = some day := by
  unfold Comparison.compare
  cases ht : Calendar.dayOf? today text with
  | none => simp [Truth.holds]
  | some a =>
      cases hv : Calendar.dayOf? today value with
      | none => simp [Truth.holds]
      | some b =>
          simp only [Truth.holds_ofBool, beq_iff_eq, Option.some.injEq]
          constructor
          · rintro rfl
            exact ⟨a, rfl, rfl⟩
          · rintro ⟨day, rfl, rfl⟩
            rfl

/-- A comparison of texts decides as the condition it was made for. -/
theorem holds_compare_iff {field : Field} {c : Condition} {text : String} :
    ((comparisonOf field c.operator).compare today text c.bound).holds = true ↔
      c.Accepts today field text := by
  obtain ⟨name, operator, value⟩ := c
  cases field with
  | tags =>
      cases operator with
      | equals => exact holds_compare_equals
      | _ => exact holds_compare_like
  | own column kind =>
      cases operator with
      | equals =>
          cases kind with
          | date => exact holds_compare_sameDay
          | _ => exact holds_compare_equals
      | _ => cases kind <;> exact holds_compare_like

/-- The names of linked tags are the texts that a contact has in the field of its tags. -/
theorem mem_tagNames_iff {name : String} : name ∈ s.tagNames r.id ↔ s.Holds r .tags name := by
  constructor
  · intro h
    simp only [Store.tagNames, List.mem_flatMap, List.mem_map, List.mem_filter, beq_iff_eq] at h
    obtain ⟨link, ⟨hl, hc⟩, tag, ⟨ht, hi⟩, rfl⟩ := h
    exact .tag hl hc ht hi
  · intro h
    cases h with
    | @tag link tag hl hc ht hi =>
        simp only [Store.tagNames, List.mem_flatMap, List.mem_map, List.mem_filter, beq_iff_eq]
        exact ⟨link, ⟨hl, hc⟩, tag, ⟨ht, hi⟩, rfl⟩

/-- A test that was made for a condition is `yes` when the contact satisfies the condition, provided
that its slot leads to the value of the condition. -/
theorem holds_test_iff {q : Query} {field : Field} {c : Condition} {slot : Nat}
    (h : q.value slot = c.bound) :
    (Test.truth today q s r ⟨operandOf field, comparisonOf field c.operator, slot⟩).holds = true ↔
      s.Satisfies today r field c := by
  cases field with
  | tags =>
    simp only [Test.truth, operandOf, h, Truth.holds_ofBool, List.any_eq_true, holds_compare_iff,
      mem_tagNames_iff]
    rfl
  | own column kind =>
    simp only [Test.truth, operandOf, h]
    -- a missing column satisfies nothing: its test is neither `yes` nor `no`
    constructor
    · intro hc
      cases ht : r.text? column with
      | none => simp [ht, Truth.holds] at hc
      | some text =>
        rw [ht] at hc
        exact ⟨text, .own ht, holds_compare_iff.1 hc⟩
    · rintro ⟨text, ⟨ht⟩, hc⟩
      rw [ht]
      exact holds_compare_iff.2 hc

/-! ### Slots -/

/-- The slots of a group lead to its own values. -/
def Group.InRange (g : Group) : Prop := ∀ t ∈ g.junction.tests, t.slot < g.binds.length

/-- A query in which every slot leads to a value, that of the organisation among them. -/
structure InRange (q : Query) : Prop where
  tenant_lt : 0 < q.binds.length
  slot_lt : ∀ j ∈ q.groups, ∀ t ∈ j.tests, t.slot < q.binds.length

/-- What a group says for itself. -/
def Group.truth (g : Group) (today : Int) (s : Store) (r : Record) : Truth :=
  g.junction.truth today ⟨[], g.binds⟩ s r

theorem andGroup_of_isEmpty {q : Query} {g : Group} (h : g.junction.tests = []) :
    q.andGroup g = q := by
  simp [andGroup, h]

theorem andGroup_of_ne_nil {q : Query} {g : Group} (h : g.junction.tests ≠ []) :
    q.andGroup g = ⟨q.groups ++ [g.junction.shift q.binds.length], q.binds ++ g.binds⟩ := by
  simp [andGroup, h]

/-- The truth value of a test depends on the value in its slot alone. -/
theorem truth_test_congr {q q' : Query} {t : Test} (h : q.value t.slot = q'.value t.slot) :
    t.truth today q s r = t.truth today q' s r := by
  simp only [Test.truth, h]

/-- A test that moves together with its value keeps its truth value. -/
theorem truth_test_shift {q q' : Query} {t : Test} {offset : Nat}
    (h : q.value (t.slot + offset) = q'.value t.slot) :
    (t.shift offset).truth today q s r = t.truth today q' s r := by
  simp only [Test.truth, Test.shift, h]

theorem truth_junction_congr {q q' : Query} {j : Junction}
    (h : ∀ t ∈ j.tests, q.value t.slot = q'.value t.slot) :
    j.truth today q s r = j.truth today q' s r := by
  have htests : j.tests.map (Test.truth today q s r) = j.tests.map (Test.truth today q' s r) :=
    List.map_congr_left fun t ht => truth_test_congr (h t ht)
  simp only [Junction.truth, htests]

theorem truth_junction_shift {q q' : Query} {j : Junction} {offset : Nat}
    (h : ∀ t ∈ j.tests, q.value (t.slot + offset) = q'.value t.slot) :
    (j.shift offset).truth today q s r = j.truth today q' s r := by
  have htests :
      (j.shift offset).tests.map (Test.truth today q s r) =
        j.tests.map (Test.truth today q' s r) := by
    rw [Junction.shift, List.map_map]
    exact List.map_congr_left fun t ht => truth_test_shift (h t ht)
  simp only [Junction.truth, htests]
  rfl

/-- The values that a query had keep their slots when a group comes behind them. -/
theorem value_append_left {groups : List Junction} {binds more : List String} {slot : Nat}
    (h : slot < binds.length) :
    (⟨groups, binds ++ more⟩ : Query).value slot = (⟨[], binds⟩ : Query).value slot := by
  simp only [value, List.getD_eq_getElem?_getD, List.getElem?_append_left h]

/-- The values of a group that comes behind others move by the number of these. -/
theorem value_append_right {groups : List Junction} {binds more : List String} {slot : Nat} :
    (⟨groups, binds ++ more⟩ : Query).value (slot + binds.length) =
      (⟨[], more⟩ : Query).value slot := by
  simp only [value, List.getD_eq_getElem?_getD]
  rw [List.getElem?_append_right (by omega), Nat.add_sub_cancel]

/-- **A further group narrows a query by what the group says for itself.**  What the earlier groups
say is left alone, and a group without tests does nothing. -/
theorem selects_andGroup {q : Query} {g : Group} (hq : q.InRange) :
    (q.andGroup g).selects today s r =
      (q.selects today s r && (g.junction.tests.isEmpty || (g.truth today s r).holds)) := by
  by_cases hg : g.junction.tests = []
  · rw [andGroup_of_isEmpty hg, hg]
    simp
  · rw [andGroup_of_ne_nil hg]
    have htenant :
        (⟨q.groups ++ [g.junction.shift q.binds.length], q.binds ++ g.binds⟩ : Query).tenant =
          q.tenant := value_append_left hq.tenant_lt
    -- earlier groups find their values where they were, and the new one finds its own behind them
    have hold : ∀ j ∈ q.groups, j.truth today ⟨q.groups ++ [g.junction.shift q.binds.length],
        q.binds ++ g.binds⟩ s r = j.truth today q s r := fun j hj =>
      truth_junction_congr fun t ht => value_append_left (hq.slot_lt j hj t ht)
    have hnew : (g.junction.shift q.binds.length).truth today
        ⟨q.groups ++ [g.junction.shift q.binds.length], q.binds ++ g.binds⟩ s r =
          g.truth today s r :=
      truth_junction_shift fun t _ => value_append_right
    have hempty : g.junction.tests.isEmpty = false := by simpa using hg
    simp only [selects, truth, Truth.holds_and, Truth.holds_ofBool, Truth.holds_all, htenant,
      List.map_append, List.map_congr_left hold, List.all_append, List.map_cons, hnew,
      List.map_nil, List.all_cons, List.all_nil, Bool.and_true, Bool.and_assoc, hempty,
      Bool.false_or]

/-- A group whose slots are in range keeps a query in range. -/
theorem InRange.andGroup {q : Query} {g : Group} (hq : q.InRange) (hg : g.InRange) :
    (q.andGroup g).InRange := by
  by_cases hempty : g.junction.tests = []
  · rw [andGroup_of_isEmpty hempty]
    exact hq
  · rw [andGroup_of_ne_nil hempty]
    refine ⟨?_, ?_⟩
    · have := hq.tenant_lt
      simp only [List.length_append]
      omega
    · intro j hj t ht
      simp only [List.length_append]
      rcases List.mem_append.1 hj with hj | hj
      · have := hq.slot_lt j hj t ht
        omega
      · rw [List.mem_singleton.1 hj] at ht
        obtain ⟨u, hu, rfl⟩ := List.mem_map.1 ht
        have := hg u hu
        simp only [Test.shift]
        omega

/-! ### The group of a filter -/

/-- The tests of conditions, each with its slot. -/
theorem mem_testsFrom_iff {l : List (Field × Condition)} {t : Test} {slot : Nat} :
    t ∈ testsFrom slot l ↔ ∃ i p, l[i]? = some p ∧
      t = ⟨operandOf p.1, comparisonOf p.1 p.2.operator, slot + i⟩ := by
  induction l generalizing slot with
  | nil => simp [testsFrom]
  | cons p l ih =>
      rw [testsFrom, List.mem_cons, ih]
      constructor
      · rintro (rfl | ⟨i, q, hq, rfl⟩)
        · exact ⟨0, p, rfl, rfl⟩
        · exact ⟨i + 1, q, hq, by rw [Nat.add_right_comm, Nat.add_assoc]⟩
      · rintro ⟨i, q, hq, rfl⟩
        cases i with
        | zero =>
            obtain rfl : p = q := by simpa using hq
            exact .inl rfl
        | succ i => exact .inr ⟨i, q, hq, by rw [Nat.add_right_comm, Nat.add_assoc]⟩

theorem length_testsFrom (slot : Nat) (l : List (Field × Condition)) :
    (testsFrom slot l).length = l.length := by
  induction l generalizing slot with
  | nil => rfl
  | cons p l ih => simp [testsFrom, ih]

theorem mem_registered_iff {f : Filter} {p : Field × Condition} :
    p ∈ registered f ↔ p.2 ∈ f.conditions ∧ Field.named? p.2.field = some p.1 := by
  obtain ⟨field, c⟩ := p
  simp only [registered, List.mem_filterMap, Option.map_eq_some_iff, Prod.mk.injEq]
  constructor
  · rintro ⟨c', hc, field', hf, rfl, rfl⟩
    exact ⟨hc, hf⟩
  · rintro ⟨hc, hf⟩
    exact ⟨c, hc, field, hf, rfl, rfl⟩

theorem registered_eq_nil_iff {f : Filter} :
    registered f = [] ↔ ∀ c ∈ f.conditions, Field.named? c.field = none := by
  simp [registered, List.filterMap_eq_nil_iff]

theorem inRange_ofFilter (f : Filter) : (Group.ofFilter f).InRange := by
  intro t ht
  obtain ⟨i, p, hp, rfl⟩ := mem_testsFrom_iff.1 ht
  obtain ⟨hi, -⟩ := List.getElem?_eq_some_iff.1 hp
  simpa [Group.ofFilter] using hi

/-- The slot of each test of a filter leads to the value of its own condition. -/
theorem value_ofFilter {f : Filter} {i : Nat} {p : Field × Condition}
    (h : (registered f)[i]? = some p) :
    (⟨[], (Group.ofFilter f).binds⟩ : Query).value (0 + i) = p.2.bound := by
  simp [value, Group.ofFilter, List.getD_eq_getElem?_getD, h]

/-- Each test of a filter is `yes` when its condition is satisfied. -/
theorem holds_ofFilter_test_iff {f : Filter} {i : Nat} {p : Field × Condition}
    (h : (registered f)[i]? = some p) :
    (Test.truth today ⟨[], (Group.ofFilter f).binds⟩ s r
      ⟨operandOf p.1, comparisonOf p.1 p.2.operator, 0 + i⟩).holds = true ↔
      s.Satisfies today r p.1 p.2 :=
  holds_test_iff (value_ofFilter h)

/-- **The group of a filter says what the filter means.** -/
theorem holds_ofFilter_iff {f : Filter} :
    ((Group.ofFilter f).junction.tests.isEmpty ||
        ((Group.ofFilter f).truth today s r).holds) = true ↔
      s.Passes today r f := by
  have hempty : (Group.ofFilter f).junction.tests.isEmpty = true ↔
      ∀ c ∈ f.conditions, Field.named? c.field = none := by
    rw [← registered_eq_nil_iff, List.isEmpty_iff, ← List.length_eq_zero_iff,
      ← List.length_eq_zero_iff]
    simp only [Group.ofFilter, length_testsFrom]
  rw [Bool.or_eq_true, hempty]
  refine or_congr Iff.rfl ?_
  simp only [Group.truth, Junction.truth, Group.ofFilter]
  -- there is one test for each condition on a registered field, in its slot
  cases f.connective with
  | all =>
      rw [Truth.holds_all, List.all_map, List.all_eq_true]
      constructor
      · intro h c hc field hf
        have hreg := (mem_registered_iff (p := (field, c))).2 ⟨hc, hf⟩
        obtain ⟨i, hi⟩ := List.mem_iff_getElem?.1 hreg
        exact (holds_ofFilter_test_iff hi).1 (h _ (mem_testsFrom_iff.2 ⟨i, (field, c), hi, rfl⟩))
      · intro h t ht
        obtain ⟨i, p, hp, rfl⟩ := mem_testsFrom_iff.1 ht
        obtain ⟨hc, hf⟩ := mem_registered_iff.1 (List.mem_iff_getElem?.2 ⟨i, hp⟩)
        exact (holds_ofFilter_test_iff hp).2 (h p.2 hc p.1 hf)
  | any =>
      rw [Truth.holds_any, List.any_map, List.any_eq_true]
      constructor
      · rintro ⟨t, ht, h⟩
        obtain ⟨i, p, hp, rfl⟩ := mem_testsFrom_iff.1 ht
        obtain ⟨hc, hf⟩ := mem_registered_iff.1 (List.mem_iff_getElem?.2 ⟨i, hp⟩)
        exact ⟨p.2, hc, p.1, hf, (holds_ofFilter_test_iff hp).1 h⟩
      · rintro ⟨c, hc, field, hf, h⟩
        have hreg := (mem_registered_iff (p := (field, c))).2 ⟨hc, hf⟩
        obtain ⟨i, hi⟩ := List.mem_iff_getElem?.1 hreg
        exact ⟨_, mem_testsFrom_iff.2 ⟨i, (field, c), hi, rfl⟩, (holds_ofFilter_test_iff hi).2 h⟩

/-! ### The group of a search term -/

/-- The group that looks for a pattern in the searched columns. -/
def Group.ofPattern (pattern : String) : Group :=
  ⟨⟨.any, searched.map fun c => ⟨.column c, .like, 0⟩⟩, [pattern]⟩

theorem ofSearch?_of_blank {term : String} (h : Text.trim term = "") :
    Group.ofSearch? term = none := by
  simp [Group.ofSearch?, h]

theorem ofSearch?_of_not_blank {term : String} (h : Text.trim term ≠ "") :
    Group.ofSearch? term = some (.ofPattern (Text.Pattern.containing (Text.trim term))) := by
  simp [Group.ofSearch?, Group.ofPattern, h]

theorem inRange_ofPattern (pattern : String) : (Group.ofPattern pattern).InRange := by
  intro t ht
  obtain ⟨column, -, rfl⟩ := List.mem_map.1 ht
  exact Nat.one_pos

/-- All tests of a search term look for the one value of their group. -/
theorem holds_pattern_test_iff {pattern : String} {column : Column} :
    (Test.truth today ⟨[], [pattern]⟩ s r ⟨.column column, .like, 0⟩).holds = true ↔
      ∃ text, r.text? column = some text ∧ Text.Pattern.accepts pattern text = true := by
  cases ht : r.text? column with
  | none => simp [Test.truth, ht, Truth.holds]
  | some text => simp [Test.truth, ht, value, holds_compare_like]

theorem holds_ofPattern_iff {pattern : String} :
    ((Group.ofPattern pattern).truth today s r).holds = true ↔ ∃ column ∈ searched,
      ∃ text, r.text? column = some text ∧ Text.Pattern.accepts pattern text = true := by
  simp only [Group.truth, Group.ofPattern, Junction.truth, Truth.holds_any, List.map_map,
    List.any_map, List.any_eq_true, Function.comp, holds_pattern_test_iff]

/-- **A search term narrows a query to the contacts that mention it.** -/
theorem selects_search_iff {q : Query} {term : String} (hq : q.InRange) :
    (q.search term).selects today s r = true ↔ q.selects today s r = true ∧ r.Mentions term := by
  unfold search
  by_cases h : Text.trim term = ""
  · simp only [ofSearch?_of_blank h, Record.Mentions, h, true_or, and_true]
  · simp only [ofSearch?_of_not_blank h, selects_andGroup hq, Bool.and_eq_true,
      Record.Mentions, h, false_or]
    refine and_congr Iff.rfl ?_
    exact holds_ofPattern_iff

/-! ### The whole query -/

theorem inRange_ofTenant (tenant : String) : (ofTenant tenant).InRange :=
  ⟨Nat.one_pos, fun _ h => absurd h List.not_mem_nil⟩

theorem selects_ofTenant_iff {tenant : String} :
    (ofTenant tenant).selects today s r = true ↔ r.organizationId = tenant := by
  simp [selects, truth, Truth.holds_all, ofTenant, Query.tenant, value]

theorem inRange_compile (tenant : String) (filter : Option Filter) :
    (compile tenant filter).InRange := by
  cases filter with
  | none => exact inRange_ofTenant tenant
  | some f => exact (inRange_ofTenant tenant).andGroup (inRange_ofFilter f)

theorem selects_compile_iff {tenant : String} {filter : Option Filter} :
    (compile tenant filter).selects today s r = true ↔
      r.organizationId = tenant ∧ ∀ f ∈ filter, s.Passes today r f := by
  cases filter with
  | none => simpa [compile] using selects_ofTenant_iff
  | some f =>
      rw [compile, selects_andGroup (inRange_ofTenant tenant), Bool.and_eq_true,
        selects_ofTenant_iff, holds_ofFilter_iff]
      simp

/-- Every slot of an assembled query leads to a value. -/
theorem inRange_matching (tenant : String) (filter : Option Filter) (term : Option String) :
    (matching tenant filter term).InRange := by
  have hcompile := inRange_compile tenant filter
  cases term with
  | none => exact hcompile
  | some term =>
      rw [matching, search]
      by_cases h : Text.trim term = ""
      · rw [ofSearch?_of_blank h]
        exact hcompile
      · rw [ofSearch?_of_not_blank h]
        exact hcompile.andGroup (inRange_ofPattern _)

/-- **The assembled query selects the contacts that are meant.** -/
theorem selects_matching_iff {tenant : String} {filter : Option Filter} {term : Option String} :
    (matching tenant filter term).selects today s r = true ↔
      s.Means today tenant filter term r := by
  cases term with
  | none =>
      rw [matching, selects_compile_iff]
      exact ⟨fun h => ⟨h.1, h.2, by simp⟩, fun h => ⟨h.tenant_eq, h.passes⟩⟩
  | some term =>
      rw [matching, selects_search_iff (inRange_compile tenant filter), selects_compile_iff]
      exact ⟨fun h => ⟨h.1.1, h.1.2, by simpa using h.2⟩,
        fun h => ⟨⟨h.tenant_eq, h.passes⟩, h.mentions term rfl⟩⟩

/-! ### Answers -/

variable {e : Engine} {q : Query} {records : List Record}

/-- **There is an answer unless the query is refused or fails at a contact**, and then it is the
selected contacts, put in order. -/
theorem run_eq_ok_iff : q.run e today s = .ok records ↔
    e.refusal? q = none ∧ (∀ r ∈ s.contacts, q.trips e today s r = false) ∧
      records = (s.contacts.filter (q.selects today s)).mergeSort listedBefore := by
  have hpasses : s.contacts.any (q.trips e today s) = false ↔
      ∀ r ∈ s.contacts, q.trips e today s r = false := by
    simp
  rw [run, ← hpasses]
  cases e.refusal? q with
  | some report => simp
  | none =>
      cases htrips : s.contacts.any (q.trips e today s) with
      | true => simp
      | false =>
          simp only [Bool.false_eq_true, if_false, Except.ok.injEq, true_and]
          exact eq_comm

theorem perm_of_run_eq_ok (h : q.run e today s = .ok records) :
    records.Perm (s.contacts.filter (q.selects today s)) := by
  obtain ⟨-, -, rfl⟩ := run_eq_ok_iff.1 h
  exact List.mergeSort_perm _ _

/-- The contacts of an answer are those that the query selects. -/
theorem mem_of_run_eq_ok (h : q.run e today s = .ok records) :
    r ∈ records ↔ r ∈ s.contacts ∧ q.selects today s r = true := by
  rw [(perm_of_run_eq_ok h).mem_iff, List.mem_filter]

end Query

/-! ### Listings -/

namespace Store

variable {e : Engine} {today : Int} {s : Store} {q : Query}

/-- The names of tags are the same on both sides of their text. -/
@[simp] theorem tagNamesOf_tagText (contactId : String) :
    Listing.tagNamesOf (some (s.tagText contactId)) = s.tagNames contactId := by
  rw [Listing.tagNamesOf, tagText, Json.decode_list_string]
  rfl

/-- A listing that succeeds shows the contacts of an answer, one after the other. -/
theorem list_eq_ok_iff {contacts : List Contact} :
    s.list e today q = .ok contacts ↔ ∃ records, q.run e today s = .ok records ∧
      records.mapM (fun r => Contact.ofRecord r (s.tagNames r.id)) = .ok contacts := by
  simp only [list, tagNamesOf_tagText]
  cases q.run e today s with
  | error report => exact ⟨fun h => (nomatch h), fun ⟨_, h, _⟩ => (nomatch h)⟩
  | ok records =>
      constructor
      · intro h
        exact ⟨records, rfl, h⟩
      · rintro ⟨_, hrun, h⟩
        obtain rfl := Except.ok.inj hrun
        exact h

/-- A listing of ids that succeeds shows the ids of an answer. -/
theorem listIds_eq_ok_iff {ids : List String} :
    s.listIds e today q = .ok ids ↔
      ∃ records, q.run e today s = .ok records ∧ records.map (·.id) = ids := by
  unfold listIds
  cases q.run e today s with
  | error report => exact ⟨fun h => (nomatch h), fun ⟨_, h, _⟩ => (nomatch h)⟩
  | ok records => simp [Except.map]

/-- A listing shows a row under its id. -/
theorem id_of_ofRecord {r : Record} {names : List String} {c : Contact}
    (h : Contact.ofRecord r names = .ok c) : c.id = r.id := by
  unfold Contact.ofRecord at h
  obtain ⟨createdAt, -, h₁⟩ := bind_eq_ok_iff.1 h
  obtain ⟨updatedAt, -, h₂⟩ := bind_eq_ok_iff.1 h₁
  obtain ⟨lastActivityAt, -, h₃⟩ := bind_eq_ok_iff.1 h₂
  rw [← Except.ok.inj h₃]

/-- When the contacts can be listed so can their ids, and they are the same. -/
theorem listIds_of_list {contacts : List Contact} (h : s.list e today q = .ok contacts) :
    s.listIds e today q = .ok (contacts.map (·.id)) := by
  obtain ⟨records, hrun, hread⟩ := list_eq_ok_iff.1 h
  refine listIds_eq_ok_iff.2 ⟨records, hrun, ?_⟩
  have hall := forall₂_of_mapM_eq_ok hread
  clear h hrun hread
  induction hall with
  | nil => rfl
  | cons hc _ ih => rw [List.map_cons, List.map_cons, id_of_ofRecord hc, ih]

end Store

end ContactBook
