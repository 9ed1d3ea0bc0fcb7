/-
**What is sent to the store is what is meant.**

A query goes to the store as a text and a list of values, while its answers are described by its
groups of tests.  This module reads the text as any reader of the language would and proves that the
condition in it comes out for every contact as the query does.  So nothing is lost between the two:
no test ends up outside its parentheses, and no number leads to the value of another test.

Main definition:

* `ContactBook.Query.condition` — the condition that a query is.

Main results:

* `ContactBook.Query.read?_clause` — **the text of a query is that condition**;
* `ContactBook.Query.truth_condition` — for every contact it comes out as the query does;
* `ContactBook.Store.mem_list_matching_iff` — **listings show the contacts that are meant**, and the
  text that is sent asks for them.
-/

import ContactBook.Proofs.Query.Text
import ContactBook.Proofs.Statement.Parts

set_option autoImplicit false

namespace ContactBook

open Statement

namespace Query

/-! ### Conditions of queries -/

/-- A comparison with the value that has a number. -/
def Comparison.condition (c : Comparison) (target : Value) (number : Nat) : Expression :=
  match c with
  | .equals => .equals target (.bound number)
  | .sameDay => .equals (.date target) (.date (.bound number))
  | .like => .like target (.bound number)

/-- The condition that a link and a tag belong together. -/
def joinedCondition : Expression := .equals (.column "t" "id") (.column "ct" "tagId")

/-- The condition that a link belongs to the contact and the name of its tag passes. -/
def linkedCondition (c : Comparison) (number : Nat) : Expression :=
  .and (.equals (.column "ct" "contactId") (.column "c" "id"))
    (c.condition (.column "t" "name") number)

/-- The condition that a test is. -/
def Test.condition (t : Test) : Expression :=
  match t.operand with
  | .column c => t.comparison.condition (.column "c" c.name) (t.slot + 1)
  | .tagName =>
    .exists "ContactTag" "ct" "Tag" "t" joinedCondition (linkedCondition t.comparison (t.slot + 1))

/-- The condition that a contact belongs to the organisation. -/
def tenantCondition : Expression := Test.condition ⟨.column .organizationId, .equals, 0⟩

/-- How conditions are joined. -/
def joinOf : Connective → Expression → Expression → Expression
  | .all => .and
  | .any => .or

/-- The condition that a junction is, if it has tests. -/
def Junction.condition (j : Junction) : Expression :=
  match j.tests with
  | [] => tenantCondition
  | t :: others => (others.map Test.condition).foldl (joinOf j.connective) t.condition

/-- The condition that a query is. -/
def condition (q : Query) : Expression :=
  (q.groups.map Junction.condition).foldl .and tenantCondition

/-! ### Reading tests -/

theorem isOperand_columnText (c : Column) : IsOperand (columnText c) (.column "c" c.name) :=
  isOperand_column (by cases c <;> decide)

/-- A comparison is read as one. -/
theorem finds_comparison {target : String} {v : Value} (h : IsOperand target v) (c : Comparison)
    (number : Nat) :
    Finds comparison? Anything
      ((comparisonText target c).1 ++ placeholder number ++ (comparisonText target c).2)
      (c.condition v number) := by
  have hnumber : IsOperand (placeholder number) (.bound number) := isOperand_placeholder number
  cases c with
  | equals =>
      have hfinds := h.isValue.equals hnumber.isValue
      simpa only [comparisonText, Comparison.condition, String.append_empty] using hfinds
  | sameDay =>
      have hfinds := h.date.equals hnumber.date
      have hsign : ") = date(" = ")" ++ (" = " ++ "date(") := by decide
      simpa only [comparisonText, Comparison.condition, hsign, String.append_assoc] using hfinds
  | like => exact h.isValue.like hnumber.isValue

/-- The question whether some linked tag passes is read as one. -/
theorem finds_linkedTag (c : Comparison) (number depth : Nat) :
    Finds (primary? (expression? (depth + 1))) Anything
      (linkedTagText ++ ((comparisonText "t.\"name\"" c).1 ++ placeholder number ++
        (comparisonText "t.\"name\"" c).2 ++ ")"))
      (.exists "ContactTag" "ct" "Tag" "t" joinedCondition (linkedCondition c number)) := by
  have hid : IsOperand "t.\"id\"" (.column "t" "id") := isOperand_column (by decide)
  have htag : IsOperand "ct.\"tagId\"" (.column "ct" "tagId") := isOperand_column (by decide)
  have hcontact : IsOperand "ct.\"contactId\"" (.column "ct" "contactId") :=
    isOperand_column (by decide)
  have hname : IsOperand "t.\"name\"" (.column "t" "name") := isOperand_column (by decide)
  -- a single comparison behind `ON`, a conjunction of two behind `WHERE`
  have hjoined : Finds (expression? (depth + 1)) EndsCondition _ joinedCondition :=
    (hid.isValue.equals htag.isValue).primary.single.single
  have hlinked : Finds (expression? (depth + 1)) EndsCondition _ (linkedCondition c number) :=
    (hcontact.isValue.equals (isOperand_columnText .id).isValue).primary.both
      (finds_comparison hname c number).primary
  have hopening : IsClosed "EXISTS (SELECT 1 FROM \"ContactTag\" ct JOIN \"Tag\" t ON "
      [.word "EXISTS", .sign '(', .word "SELECT", .word "1", .word "FROM", .name "ContactTag",
        .word "ct", .word "JOIN", .name "Tag", .word "t", .word "ON"] := by decide +kernel
  have hfinds := Finds.exists hopening hjoined (endsCondition_cons (by decide) (by decide)) hlinked
    (endsCondition_cons (by decide) (by decide))
  have htext : linkedTagText =
      "EXISTS (SELECT 1 FROM \"ContactTag\" ct JOIN \"Tag\" t ON " ++
        ("t.\"id\"" ++ " = " ++ "ct.\"tagId\"" ++
          (" WHERE " ++ ("ct.\"contactId\"" ++ " = " ++ columnText .id ++ " AND "))) := by
    decide +kernel
  rw [htext]
  simp only [String.append_assoc] at hfinds ⊢
  exact hfinds

/-- A test is read as one. -/
theorem finds_test (t : Test) (depth : Nat) :
    Finds (primary? (expression? (depth + 1))) Anything (t.written 0) t.condition := by
  obtain ⟨operand, c, slot⟩ := t
  cases operand with
  | column column => exact (finds_comparison (isOperand_columnText column) c (slot + 1)).primary
  | tagName =>
      have hfinds := finds_linkedTag c (slot + 1) depth
      rw [Test.written, text_tagName]
      simp only [String.append_assoc, Nat.add_zero] at hfinds ⊢
      exact hfinds

/-! ### Reading junctions -/

theorem intercalate_map_cons {α : Type} (between : String) (text : α → String) (a : α)
    (others : List α) :
    String.intercalate between ((a :: others).map text) =
      text a ++ String.join (others.map fun b => between ++ text b) := by
  induction others generalizing a with
  | nil => simp
  | cons b others ih =>
      simp only [List.map_cons] at ih
      simp [ih, String.append_assoc, String.join_cons]

/-- Tests with the word of a connective between any two. -/
theorem textFrom_pieces_cons {j : Junction} {t : Test} {others : List Test}
    (h : j.tests = t :: others) : Clause.textFrom 0 j.pieces =
      t.written 0 ++ moreText j.connective.keyword (Test.written 0) others := by
  rw [Junction.pieces, h, textFrom_tests, intercalate_map_cons, moreText]

/-- A junction of some tests is read as one. -/
theorem finds_junction {j : Junction} (h : j.tests ≠ []) (depth : Nat) :
    Finds (expression? (depth + 2)) EndsCondition (Clause.textFrom 0 j.pieces) j.condition := by
  obtain ⟨t, others, htests⟩ := List.exists_cons_of_ne_nil h
  have hothers : ∀ t ∈ others, Finds (primary? (expression? (depth + 1))) Anything
      (t.written 0) t.condition := fun t _ => finds_test t depth
  rw [textFrom_pieces_cons htests, Junction.condition, htests]
  cases j.connective with
  | all => exact (finds_test t depth).conjunction hothers
  | any => exact (finds_test t depth).disjunction hothers

/-! ### Reading queries -/

/-- A junction as it stands in a query. -/
def Junction.enclosed (j : Junction) : String := "(" ++ Clause.textFrom 0 j.pieces ++ ")"

theorem textFrom_foldl_furtherPieces (pieces : List Piece) (js : List Junction) :
    Clause.textFrom 0 (js.foldl furtherPieces pieces) =
      Clause.textFrom 0 pieces ++ moreText "AND" Junction.enclosed js := by
  induction js generalizing pieces with
  | nil => simp [moreText]
  | cons j js ih =>
      have hopening : " AND (" = " " ++ "AND" ++ " " ++ "(" := by decide
      have htext : ∀ s, Clause.textFrom 0 [.text s] = s := by simp [Piece.shift, Clause.pieceText]
      rw [List.foldl_cons, ih, furtherPieces, Clause.textFrom_join, Clause.textFrom_join,
        Clause.textFrom_join, htext, htext, hopening, moreText, moreText, List.map_cons,
        String.join_cons, Junction.enclosed]
      simp only [String.append_assoc]

/-- The text of a query: the organisation and then the groups, each in parentheses. -/
theorem sql_clause (q : Query) :
    q.clause.render.sql = tenantText ++ moreText "AND" Junction.enclosed q.groups := by
  rw [Clause.render_eq]
  exact textFrom_foldl_furtherPieces _ q.groups

/-- **The text of a query is the condition that the query is**, if it has no groups without
tests. -/
theorem read?_clause {q : Query} (h : ∀ j ∈ q.groups, j.tests ≠ []) :
    read? q.clause.render.sql = some q.condition := by
  have hfinds : ∀ depth, Finds (expression? (depth + 3)) EndsCondition q.clause.render.sql
      q.condition := by
    intro depth
    rw [sql_clause]
    refine (finds_test ⟨.column .organizationId, .equals, 0⟩ (depth + 1)).conjunction fun j hj => ?_
    exact (finds_junction (h j hj) depth).parenthesized
      (endsCondition_cons (by decide) (by decide))
  have hlength : 3 ≤ q.clause.render.sql.length := by
    have htenant : 3 ≤ tenantText.length := by decide
    rw [sql_clause, String.length_append]
    omega
  obtain ⟨depth, hdepth⟩ := Nat.exists_eq_add_of_le' hlength
  refine Finds.read?_eq ?_
  rw [hdepth]
  exact hfinds depth

/-! ### Values -/

section

variable {s : Store} {today : Int} {r : Record} {q : Query} {rows : List (String × Row)}
  {v : Value} {slot : Nat}

theorem contactRow_name (r : Record) (c : Column) :
    contactRow r c.name = some (.ofText? (r.text? c)) := by
  cases c <;> rfl

/-- The number of a value leads to the value in its slot. -/
theorem cell?_bound (h : slot < q.binds.length) :
    (Value.bound (slot + 1)).cell? today q.binds rows = some (.text (q.value slot)) := by
  simp [Value.cell?, Cell.ofText?, value, h]

/-- The day of a text, if it has one. -/
theorem cell?_date {text? : Option String}
    (hv : v.cell? today q.binds rows = some (.ofText? text?)) :
    (Value.date v).cell? today q.binds rows =
      some (.ofDay? (text?.bind (Calendar.dayOf? today))) := by
  rw [Value.cell?, hv]
  cases text? <;> rfl

/-- A comparison comes out as texts are compared; it is `unknown` when there is no text. -/
theorem truth?_comparison {text? : Option String} (h : slot < q.binds.length)
    (hv : v.cell? today q.binds rows = some (.ofText? text?)) (c : Comparison) :
    (c.condition v (slot + 1)).truth? s today q.binds rows =
      some (text?.elim .unknown fun text => c.compare today text (q.value slot)) := by
  have hbound : (Value.bound (slot + 1)).cell? today q.binds rows =
      some (.ofText? (some (q.value slot))) := cell?_bound h
  cases c with
  | equals =>
      rw [Comparison.condition, Expression.truth?, hv, hbound]
      cases text? <;> rfl
  | like =>
      rw [Comparison.condition, Expression.truth?, hv, hbound]
      cases text? <;> rfl
  | sameDay =>
      rw [Comparison.condition, Expression.truth?, cell?_date hv, cell?_date hbound]
      cases text? with
      | none => rfl
      | some text =>
          unfold Comparison.compare
          cases hday : Calendar.dayOf? today text <;>
            cases hday' : Calendar.dayOf? today (q.value slot) <;>
              simp [hday, hday', Cell.ofDay?, Cell.equals?]

/-- A test of a column comes out as the query says. -/
theorem truth?_column {c : Column} {comparison : Comparison} (h : slot < q.binds.length) :
    (Test.condition ⟨.column c, comparison, slot⟩).truth? s today q.binds [("c", contactRow r)] =
      some (Test.truth today q s r ⟨.column c, comparison, slot⟩) := by
  have hcell : (Value.column "c" c.name).cell? today q.binds [("c", contactRow r)] =
      some (.ofText? (r.text? c)) := contactRow_name r c
  rw [Test.condition, truth?_comparison h hcell]
  cases htext : r.text? c <;> simp [Test.truth, htext]

/-! ### Tags -/

/-- Where something can be asked of every link and tag, it is true of some when it is of one. -/
theorem someJoined?_eq {asked : Row → Row → Option Truth} {answer : Link → Tag → Truth}
    (h : ∀ l t, asked (linkRow l) (tagRow t) = some (answer l t)) :
    someJoined? s "ContactTag" "Tag" asked =
      some (.ofBool (s.links.any fun l => s.tags.any fun t => (answer l t).holds)) := by
  have hlinks : table? s "ContactTag" = some (s.links.map linkRow) := rfl
  have htags : table? s "Tag" = some (s.tags.map tagRow) := rfl
  have hasked : ((s.links.map linkRow).flatMap fun cells => (s.tags.map tagRow).map (asked cells)) =
      (s.links.flatMap fun l => s.tags.map (answer l)).map some := by
    simp [List.flatMap_map, List.map_flatMap, Function.comp_def, h]
  have hall : ∀ found : List Truth, (found.map some).mapM id = some found := by
    intro found
    induction found with
    | nil => rfl
    | cons truth found ih => simp [ih]
  simp only [someJoined?, hlinks, htags, Option.bind_eq_bind, Option.bind_some, hasked, hall]
  simp [List.any_flatMap, Function.comp_def]

/-- The rows that a question about tags looks at. -/
def linkedRows (r : Record) (l : Link) (t : Tag) : List (String × Row) :=
  [("ct", linkRow l), ("t", tagRow t), ("c", contactRow r)]

theorem truth?_joinedCondition (l : Link) (t : Tag) :
    joinedCondition.truth? s today q.binds (linkedRows r l t) =
      some (.ofBool (t.id == l.tagId)) := rfl

theorem truth?_linkedCondition {c : Comparison} (h : slot < q.binds.length) (l : Link) (t : Tag) :
    (linkedCondition c (slot + 1)).truth? s today q.binds (linkedRows r l t) =
      some ((Truth.ofBool (l.contactId == r.id)).and (c.compare today t.name (q.value slot))) := by
  have hcell : (Value.column "t" "name").cell? today q.binds (linkedRows r l t) =
      some (.ofText? (some t.name)) := rfl
  rw [linkedCondition, Expression.truth?, truth?_comparison h hcell]
  rfl

/-- Something is true of the name of some tag of a contact when it is of a link and a tag that
belong to each other and to the contact. -/
theorem any_tagNames (p : String → Bool) :
    (s.tagNames r.id).any p = s.links.any fun l => s.tags.any fun t =>
      t.id == l.tagId && (l.contactId == r.id && p t.name) := by
  rw [Bool.eq_iff_iff]
  simp only [Store.tagNames, List.any_eq_true, List.mem_flatMap, List.mem_map, List.mem_filter,
    Bool.and_eq_true]
  constructor
  · rintro ⟨_, ⟨l, ⟨hl, hcontact⟩, t, ⟨ht, htag⟩, rfl⟩, hp⟩
    exact ⟨l, hl, t, ht, htag, hcontact, hp⟩
  · rintro ⟨l, hl, t, ht, htag, hcontact, hp⟩
    exact ⟨t.name, ⟨l, ⟨hl, hcontact⟩, t, ⟨ht, htag⟩, rfl⟩, hp⟩

/-- A test of tags comes out as the query says. -/
theorem truth?_tagName {c : Comparison} (h : slot < q.binds.length) :
    (Test.condition ⟨.tagName, c, slot⟩).truth? s today q.binds [("c", contactRow r)] =
      some (Test.truth today q s r ⟨.tagName, c, slot⟩) := by
  let answer (l : Link) (t : Tag) : Truth :=
    (Truth.ofBool (t.id == l.tagId)).and
      ((Truth.ofBool (l.contactId == r.id)).and (c.compare today t.name (q.value slot)))
  have hasked : ∀ l t, (do
      return (← joinedCondition.truth? s today q.binds (linkedRows r l t)).and
        (← (linkedCondition c (slot + 1)).truth? s today q.binds (linkedRows r l t))) =
      some (answer l t) := by
    intro l t
    rw [truth?_joinedCondition, truth?_linkedCondition h]
    rfl
  rw [Test.condition, Expression.truth?]
  refine (someJoined?_eq hasked).trans ?_
  simp only [answer, Test.truth, any_tagNames, Truth.holds_and, Truth.holds_ofBool]

/-! ### Queries -/

/-- A test comes out as the query says. -/
theorem truth?_test {t : Test} (h : t.slot < q.binds.length) :
    t.condition.truth? s today q.binds [("c", contactRow r)] = some (t.truth today q s r) := by
  obtain ⟨operand, c, slot⟩ := t
  cases operand with
  | column column => exact truth?_column h
  | tagName => exact truth?_tagName h

variable {α : Type} {condition : α → Expression} {truth : α → Truth} {e : Expression} {t : Truth}
  {others : List α}

/-- How truth values are joined. -/
def joined : Connective → List Truth → Truth
  | .all, ts => .all ts
  | .any, ts => .any ts

theorem joined_joined_cons (c : Connective) (t u : Truth) (ts : List Truth) :
    joined c (joined c [t, u] :: ts) = joined c (t :: u :: ts) := by
  cases c with
  | all => simp [joined, Truth.all, Truth.and_assoc]
  | any => simp [joined, Truth.any, Truth.or_assoc]

/-- Joined conditions come out as their truth values are joined. -/
theorem truth?_foldl (c : Connective) (he : e.truth? s today q.binds rows = some t)
    (h : ∀ a ∈ others, (condition a).truth? s today q.binds rows = some (truth a)) :
    ((others.map condition).foldl (joinOf c) e).truth? s today q.binds rows =
      some (joined c (t :: others.map truth)) := by
  induction others generalizing e t with
  | nil => cases c <;> simpa [joined, Truth.all, Truth.any] using he
  | cons a others ih =>
      have ha := h a List.mem_cons_self
      have hpair : (joinOf c e (condition a)).truth? s today q.binds rows =
          some (joined c [t, truth a]) := by
        cases c <;> simp [joinOf, Expression.truth?, he, ha, joined, Truth.all, Truth.any]
      rw [List.map_cons, List.foldl_cons, ih hpair fun b hb => h b (List.mem_cons_of_mem _ hb),
        joined_joined_cons, List.map_cons]

/-- A junction of some tests comes out as the query says. -/
theorem truth?_junction {j : Junction} (hne : j.tests ≠ [])
    (h : ∀ t ∈ j.tests, t.slot < q.binds.length) :
    j.condition.truth? s today q.binds [("c", contactRow r)] = some (j.truth today q s r) := by
  obtain ⟨t, others, htests⟩ := List.exists_cons_of_ne_nil hne
  have hjoined : j.truth today q s r =
      joined j.connective (j.tests.map (Test.truth today q s r)) := by
    unfold Junction.truth
    cases j.connective <;> rfl
  rw [htests] at h
  rw [hjoined, Junction.condition, htests, List.map_cons]
  exact truth?_foldl j.connective (truth?_test (h t List.mem_cons_self)) fun u hu =>
    truth?_test (h u (List.mem_cons_of_mem _ hu))

/-- **The condition that a query is comes out as the query does**, for every contact, if the numbers
lead to values. -/
theorem truth_condition (hq : q.InRange) (hne : ∀ j ∈ q.groups, j.tests ≠ []) (today : Int)
    (s : Store) (r : Record) :
    q.condition.truth s today q.clause.render.params r = some (q.truth today s r) := by
  have htenant : tenantCondition.truth? s today q.binds [("c", contactRow r)] =
      some (.ofBool (r.organizationId == q.tenant)) :=
    truth?_test (t := ⟨.column .organizationId, .equals, 0⟩) hq.tenant_lt
  exact truth?_foldl .all htenant fun j hj => truth?_junction (hne j hj) (hq.slot_lt j hj)

end

/-! ### Filters and search terms -/

/-- A query with a further group has no groups without tests either. -/
theorem tests_ne_nil_andGroup {q : Query} {g : Group} (hq : ∀ j ∈ q.groups, j.tests ≠ []) :
    ∀ j ∈ (q.andGroup g).groups, j.tests ≠ [] := by
  by_cases hg : g.junction.tests = []
  · rwa [andGroup_of_isEmpty hg]
  · rw [andGroup_of_ne_nil hg]
    intro j hj
    rcases List.mem_append.1 hj with hj | hj
    · exact hq j hj
    · obtain rfl := List.mem_singleton.1 hj
      exact fun h => hg (List.map_eq_nil_iff.1 h)

theorem tests_ne_nil_compile (tenant : String) (filter : Option Filter) :
    ∀ j ∈ (compile tenant filter).groups, j.tests ≠ [] := by
  have hnone : ∀ j ∈ (ofTenant tenant).groups, j.tests ≠ [] := nofun
  cases filter with
  | none => exact hnone
  | some f => exact tests_ne_nil_andGroup hnone

theorem tests_ne_nil_matching (tenant : String) (filter : Option Filter) (term : Option String) :
    ∀ j ∈ (matching tenant filter term).groups, j.tests ≠ [] := by
  have hcompile := tests_ne_nil_compile tenant filter
  by_cases h : Text.trim (term.getD "") = ""
  · rwa [matching_of_blank h]
  · rw [matching_of_not_blank h]
    exact tests_ne_nil_andGroup hcompile

/-- **The text that is sent for a filter and a search term**, with its values, is a condition that
comes out for every contact as the query does. -/
theorem exists_read?_matching (tenant : String) (filter : Option Filter) (term : Option String) :
    ∃ condition : Expression,
      read? (matching tenant filter term).clause.render.sql = some condition ∧
      ∀ today s r, condition.truth s today (matching tenant filter term).clause.render.params r =
        some ((matching tenant filter term).truth today s r) :=
  ⟨(matching tenant filter term).condition, read?_clause (tests_ne_nil_matching _ _ _),
    truth_condition (inRange_matching _ _ _) (tests_ne_nil_matching _ _ _)⟩

end Query

namespace Store

/-- **Listings show the contacts that are meant**, those of contacts and those of ids alike: exactly
the rows of the organisation that, as of the day of the listing, pass the filter and mention the
search term.  It is so whatever the engine is, as long as it answers; and the text that is sent to
it, read with the values beside it, asks for these rows. -/
theorem mem_list_matching_iff (e : Engine) (today : Int) (s : Store) (tenant : String)
    (filter : Option Filter) (term : Option String) :
    (∀ contacts, s.list e today (Query.matching tenant filter term) = .ok contacts →
      ∀ c, c ∈ contacts ↔ ∃ r ∈ s.contacts, s.Means today tenant filter term r ∧
        Contact.ofRecord r (s.tagNames r.id) = .ok c) ∧
    (∀ ids, s.listIds e today (Query.matching tenant filter term) = .ok ids → ∀ id, id ∈ ids ↔
      ∃ r ∈ s.contacts, s.Means today tenant filter term r ∧ r.id = id) ∧
    ∃ condition, Statement.read? (Query.matching tenant filter term).clause.render.sql =
        some condition ∧
      ∀ r, ∃ truth, condition.truth s today (Query.matching tenant filter term).clause.render.params
          r = some truth ∧ (truth.holds = true ↔ s.Means today tenant filter term r) := by
  refine ⟨?_, ?_, ?_⟩
  · intro contacts h c
    obtain ⟨records, hrun, hread⟩ := list_eq_ok_iff.1 h
    simp only [mem_of_mapM_eq_ok hread, Query.mem_of_run_eq_ok hrun, Query.selects_matching_iff,
      and_assoc]
  · intro ids h id
    obtain ⟨records, hrun, rfl⟩ := listIds_eq_ok_iff.1 h
    simp only [List.mem_map, Query.mem_of_run_eq_ok hrun, Query.selects_matching_iff, and_assoc]
  · obtain ⟨condition, hread, htruth⟩ := Query.exists_read?_matching tenant filter term
    exact ⟨condition, hread, fun r => ⟨_, htruth today s r, Query.selects_matching_iff⟩⟩

/-- A store of three contacts.  Only the second has the tag, and no city is known of any. -/
def officeParty : Store where
  contacts :=
    [⟨"a1", "acme", { firstName := some "Adam" }, "2024-01-01 00:00:00+00:00",
        "2024-01-01 00:00:00+00:00", none, none⟩,
      ⟨"a2", "acme", { email := some "ada@acme" }, "2024-01-02 00:00:00+00:00",
        "2024-01-02 00:00:00+00:00", none, none⟩,
      ⟨"g1", "globex", { firstName := some "Ada" }, "2024-01-03 00:00:00+00:00",
        "2024-01-03 00:00:00+00:00", none, none⟩]
  tags := [⟨1, "acme", "vip"⟩]
  links := [⟨"a2", 1⟩, ⟨"g1", 1⟩]

/-- A disjunction with a missing column, an unregistered field, a tag and the present day, narrowed
by a search term in blanks, selects one contact on the second day of the year, and it is the one
that is meant.  The text that is sent leaves it open for the first contact, whose city is missing,
and says no to the one of another organisation. -/
theorem mem_list_matching_officeParty :
    let filter : Filter :=
      ⟨[⟨"city", .startsWith, ""⟩, ⟨"shoe size", .equals, "7"⟩, ⟨"tags", .equals, "vip"⟩,
        ⟨"createdAt", .equals, "Now"⟩], .any⟩
    let query := Query.matching "acme" (some filter) (some " ADA ")
    let today : Int := 2460312
    ∃ contacts, officeParty.list .builtIn today query = .ok contacts ∧
      officeParty.listIds .builtIn today query = .ok ["a2"] ∧
      (∀ c, c ∈ contacts ↔ ∃ r ∈ officeParty.contacts,
        officeParty.Means today "acme" (some filter) (some " ADA ") r ∧
          Contact.ofRecord r (officeParty.tagNames r.id) = .ok c) ∧
      (∀ id, id ∈ ["a2"] ↔ ∃ r ∈ officeParty.contacts,
        officeParty.Means today "acme" (some filter) (some " ADA ") r ∧ r.id = id) ∧
      ∃ condition, Statement.read? query.clause.render.sql = some condition ∧
        officeParty.contacts.map (condition.truth officeParty today query.clause.render.params) =
          [some .unknown, some .yes, some .no] := by
  intro filter query today
  have hids : officeParty.listIds .builtIn today query = .ok ["a2"] := by decide +kernel
  have hsome : (officeParty.list .builtIn today query).toOption.isSome = true := by decide +kernel
  cases hlist : officeParty.list .builtIn today query with
  | error report => simp [hlist, Except.toOption] at hsome
  | ok contacts =>
      have hmem := mem_list_matching_iff .builtIn today officeParty "acme" (some filter)
        (some " ADA ")
      obtain ⟨condition, hread, -⟩ := hmem.2.2
      have hcondition : query.condition = condition := Option.some.inj
        ((Query.read?_clause (Query.tests_ne_nil_matching _ _ _)).symm.trans hread)
      have hsent : officeParty.contacts.map
          (query.condition.truth officeParty today query.clause.render.params) =
            [some .unknown, some .yes, some .no] := by decide +kernel
      exact ⟨contacts, rfl, hids, hmem.1 contacts hlist, hmem.2.1 _ hids, condition, hread,
        hcondition ▸ hsent⟩

end Store

end ContactBook
