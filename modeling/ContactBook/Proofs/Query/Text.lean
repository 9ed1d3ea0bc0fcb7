/-
**The text of a query, and its values.**

A query goes to the store as a text with numbered placeholders and a list of values.  What a user
wrote stands in the list alone.  This module says what text and what list that is for a filter and
a search term: the organisation is the first value, each condition on a registered field has the
next one and mentions it once, and all comparisons of a search term share the last.  Conditions on
other fields leave no trace.

Main definitions:

* `ContactBook.Query.writtenText` — **the reference**: the whole text, letter by letter;
* `ContactBook.Query.conditionText`, `ContactBook.Query.searchText` — its parts: how a condition on
  a field and a search term are written, given the number of the placeholder;
* `ContactBook.Query.applied` — the conditions of a filter that count.

Main results:

* `ContactBook.Query.clause_andGroup` — a query with a further group is written as its clause with
  a further condition, though its values are numbered elsewhere;
* `ContactBook.Query.render_matching` — **the text and the values of a query**; the text depends
  neither on values nor on conditions that are passed over.
-/

import ContactBook.Proofs.Clause
import ContactBook.Proofs.Query.Meaning

set_option autoImplicit false

namespace ContactBook.Query

/-! ### The reference -/

/-- A reference to the value with a number. -/
def placeholder (number : Nat) : String := "?" ++ toString number

/-- A column of the contact as it is written. -/
def writtenColumn : Column → String
  | .id => "c.\"id\""
  | .organizationId => "c.\"organizationId\""
  | .firstName => "c.\"firstName\""
  | .lastName => "c.\"lastName\""
  | .email => "c.\"email\""
  | .title => "c.\"title\""
  | .currentCompanyName => "c.\"currentCompanyName\""
  | .leadStatus => "c.\"leadStatus\""
  | .city => "c.\"city\""
  | .state => "c.\"state\""
  | .country => "c.\"country\""
  | .createdAt => "c.\"createdAt\""
  | .updatedAt => "c.\"updatedAt\""
  | .lastActivityAt => "c.\"lastActivityAt\""
  | .additionalData => "c.\"additionalData\""

/-- What is written between two conditions. -/
def writtenConnective : Connective → String
  | .all => " AND "
  | .any => " OR "

/-- How a text is compared with the value with a number. -/
def textComparison (target : String) (operator : Operator) (number : Nat) : String :=
  match operator with
  | .equals => target ++ " = " ++ placeholder number
  | .contains | .startsWith | .endsWith =>
    target ++ " LIKE " ++ placeholder number ++ " ESCAPE '\\'"

/-- What stands before a comparison of the names of the tags that are linked to a contact. -/
def linkedTagText : String :=
  "EXISTS (SELECT 1 FROM \"ContactTag\" ct JOIN \"Tag\" t ON t.\"id\" = ct.\"tagId\" " ++
    "WHERE ct.\"contactId\" = c.\"id\" AND "

/-- How a condition on a field is written; `number` is that of its value. -/
def conditionText (field : Field) (operator : Operator) (number : Nat) : String :=
  match field, operator with
  | .own column .date, .equals =>
    "date(" ++ writtenColumn column ++ ") = date(" ++ placeholder number ++ ")"
  | .own column _, operator => textComparison (writtenColumn column) operator number
  | .tags, operator => linkedTagText ++ textComparison "t.\"name\"" operator number ++ ")"

/-- How a search term is written; `number` is that of its value. -/
def searchText (number : Nat) : String :=
  String.intercalate " OR " <|
    ["c.\"firstName\"", "c.\"lastName\"", "c.\"email\"", "c.\"leadStatus\"", "c.\"title\"",
      "c.\"currentCompanyName\""].map
        fun column => column ++ " LIKE " ++ placeholder number ++ " ESCAPE '\\'"

/-- How the organisation is written, whose value is the first. -/
def tenantText : String := "c.\"organizationId\" = ?1"

/-- **The text of a query.**  It is made of the fields and the operators of conditions, of what is
written between them and of whether there is a search term. -/
def writtenText (connective : Connective) (outline : List (Field × Operator)) (searching : Bool) :
    String :=
  tenantText ++
    (if outline = [] then ""
    else " AND (" ++ String.intercalate (writtenConnective connective)
      (outline.mapIdx fun i p => conditionText p.1 p.2 (i + 2)) ++ ")") ++
    if searching then " AND (" ++ searchText (outline.length + 2) ++ ")" else ""

/-- The conditions of a filter, if there is one, that are on registered fields, with these
fields. -/
def applied (filter : Option Filter) : List (Field × Condition) := filter.elim [] registered

/-- The fields and the operators of the conditions of a filter that count. -/
def outline (filter : Option Filter) : List (Field × Operator) :=
  (applied filter).map fun p => (p.1, p.2.operator)

/-- How the conditions of a filter are joined; without a filter there are none. -/
def connectiveOf (filter : Option Filter) : Connective := filter.elim .all (·.connective)

/-! ### Tests -/

theorem columnText_eq (column : Column) : columnText column = writtenColumn column := by
  cases column <;> decide

theorem keyword_eq (connective : Connective) :
    " " ++ connective.keyword ++ " " = writtenConnective connective := by
  cases connective <;> decide

/-- A test as it is written when its value stands behind `offset` others. -/
def Test.written (offset : Nat) (t : Test) : String :=
  t.text.1 ++ placeholder (t.slot + offset + 1) ++ t.text.2

theorem Test.pieces_eq (t : Test) :
    t.pieces =
      if t.text.2.isEmpty then [.text t.text.1, .param t.slot]
      else [.text t.text.1, .param t.slot, .text t.text.2] := rfl

theorem textFrom_test (offset : Nat) (t : Test) :
    Clause.textFrom offset t.pieces = t.written offset := by
  have hparam : Clause.pieceText (Piece.shift offset (.param t.slot)) =
      placeholder (t.slot + offset + 1) := rfl
  have htext : ∀ s, Clause.pieceText (Piece.shift offset (.text s)) = s := fun _ => rfl
  rw [Test.pieces_eq, Test.written]
  split
  next hempty =>
    rw [String.isEmpty_iff.1 hempty]
    simp [hparam, htext]
  next => simp [hparam, htext, String.append_assoc]

/-- Tests are written with the joiner between any two. -/
theorem textFrom_tests (offset : Nat) (joiner : String) (tests : List Test) :
    Clause.textFrom offset (testsPieces joiner tests) =
      String.intercalate joiner (tests.map (Test.written offset)) := by
  fun_induction testsPieces joiner tests with
  | case1 => simp
  | case2 t => simp [textFrom_test]
  | case3 t rest hrest ih =>
      obtain ⟨u, rest, rfl⟩ := List.exists_cons_of_ne_nil fun h => hrest h
      simp only [List.map_cons] at ih
      simp [Clause.textFrom_join, textFrom_test, ih, Piece.shift, Clause.pieceText]

theorem text_column (column : Column) (comparison : Comparison) (slot : Nat) :
    Test.text ⟨.column column, comparison, slot⟩ =
      comparisonText (columnText column) comparison := rfl

theorem text_tagName (comparison : Comparison) (slot : Nat) :
    Test.text ⟨.tagName, comparison, slot⟩ =
      (linkedTagText ++ (comparisonText "t.\"name\"" comparison).1,
        (comparisonText "t.\"name\"" comparison).2 ++ ")") := rfl

/-- A comparison that does not look at days is written as one of texts. -/
theorem comparisonText_eq (target : String) (operator : Operator) (number : Nat) :
    (comparisonText target (comparisonOf .tags operator)).1 ++ placeholder number ++
        (comparisonText target (comparisonOf .tags operator)).2 =
      textComparison target operator number := by
  cases operator <;> simp [comparisonText, comparisonOf, textComparison]

/-- The test of a condition is written as the condition. -/
theorem written_test (offset : Nat) (field : Field) (operator : Operator) (slot : Nat) :
    Test.written offset ⟨operandOf field, comparisonOf field operator, slot⟩ =
      conditionText field operator (slot + offset + 1) := by
  cases field with
  | tags =>
      rw [Test.written, operandOf, text_tagName, conditionText, ← comparisonText_eq]
      simp only [String.append_assoc]
  | own column kind =>
      rw [Test.written, operandOf, text_column, columnText_eq]
      by_cases hday : kind = .date ∧ operator = .equals
      · obtain ⟨rfl, rfl⟩ := hday
        simp only [comparisonOf, comparisonText, conditionText, String.append_assoc]
      · have hcomparison :
            comparisonOf (.own column kind) operator = comparisonOf .tags operator := by
          cases kind <;> cases operator <;> simp_all [comparisonOf]
        have htext : conditionText (.own column kind) operator (slot + offset + 1) =
            textComparison (writtenColumn column) operator (slot + offset + 1) := by
          cases kind <;> cases operator <;> simp_all [conditionText]
        rw [hcomparison, htext, comparisonText_eq]

/-- The tests of conditions are written as the conditions, with numbers that go up by one. -/
theorem map_written_testsFrom (offset slot : Nat) (l : List (Field × Condition)) :
    (testsFrom slot l).map (Test.written offset) =
      (l.map fun p => (p.1, p.2.operator)).mapIdx fun i p =>
        conditionText p.1 p.2 (slot + i + offset + 1) := by
  induction l generalizing slot with
  | nil => rfl
  | cons p l ih =>
      rw [testsFrom, List.map_cons, List.map_cons, List.mapIdx_cons, ih, written_test]
      simp only [Nat.add_zero, Nat.add_right_comm, ← Nat.add_assoc]

/-! ### Groups -/

theorem pieces_shift (offset : Nat) (t : Test) :
    (t.shift offset).pieces = t.pieces.map (Piece.shift offset) := by
  have htext : (t.shift offset).text = t.text := rfl
  rw [Test.pieces_eq, Test.pieces_eq, htext]
  split <;> rfl

theorem testsPieces_shift (offset : Nat) (joiner : String) (tests : List Test) :
    testsPieces joiner (tests.map (Test.shift offset)) =
      (testsPieces joiner tests).map (Piece.shift offset) := by
  fun_induction testsPieces joiner tests with
  | case1 => rfl
  | case2 t => exact pieces_shift offset t
  | case3 t rest hrest ih =>
      obtain ⟨u, rest, rfl⟩ := List.exists_cons_of_ne_nil fun h => hrest h
      rw [List.map_cons] at ih
      rw [List.map_cons, List.map_cons, testsPieces, ih, pieces_shift, Clause.map_shift_join,
        Clause.map_shift_join]
      · rfl
      · exact nofun

theorem testsPieces_eq_nil_iff {joiner : String} {tests : List Test} :
    testsPieces joiner tests = [] ↔ tests = [] := by
  have hpieces : ∀ t : Test, t.pieces ≠ [] := by
    intro t
    rw [Test.pieces_eq]
    split <;> exact List.cons_ne_nil _ _
  fun_cases testsPieces joiner tests with
  | case1 => simp
  | case2 t => simp [hpieces]
  | case3 t rest hrest => simp [Clause.join_eq_nil_iff]

/-- **A query with a further group is written as its clause with a further condition.**  The tests
of the query are numbered through, and the clause moves its references; both come to the same. -/
theorem clause_andGroup (q : Query) (g : Group) :
    (q.andGroup g).clause = q.clause.andGroup g.clause := by
  by_cases hg : g.junction.tests = []
  · have hempty : g.clause.isEmpty = true := by
      rw [Clause.isEmpty, List.isEmpty_iff]
      exact testsPieces_eq_nil_iff.2 hg
    rw [andGroup_of_isEmpty hg, Clause.andGroup, if_pos hempty]
  · have hempty : ¬ g.clause.isEmpty = true := by
      rw [Clause.isEmpty, List.isEmpty_iff]
      exact fun h => hg (testsPieces_eq_nil_iff.1 h)
    have hpieces : (g.junction.shift q.binds.length).pieces =
        g.clause.pieces.map (Piece.shift q.binds.length) := testsPieces_shift _ _ _
    rw [andGroup_of_ne_nil hg, Clause.andGroup, if_neg hempty, clause, List.foldl_append,
      List.foldl_cons, List.foldl_nil, furtherPieces, hpieces]
    rfl

/-- A query with a further group is written with the tests of the group in parentheses. -/
theorem render_clause_andGroup (q : Query) (g : Group) :
    (q.andGroup g).clause.render =
      if g.junction.tests = [] then q.clause.render
      else ⟨q.clause.render.sql ++ " AND (" ++
          String.intercalate (writtenConnective g.junction.connective)
            (g.junction.tests.map (Test.written q.binds.length)) ++ ")",
        q.binds ++ g.binds⟩ := by
  have hempty : g.clause.isEmpty = true ↔ g.junction.tests = [] := by
    rw [Clause.isEmpty, List.isEmpty_iff]
    exact testsPieces_eq_nil_iff
  rw [clause_andGroup, Clause.render_andGroup]
  simp only [hempty]
  have htext : Clause.textFrom q.clause.paramCount g.clause.pieces = _ :=
    textFrom_tests q.binds.length _ g.junction.tests
  rw [htext, keyword_eq]
  rfl

/-! ### The whole query -/

theorem render_ofTenant (tenant : String) :
    (ofTenant tenant).clause.render =
      ⟨tenantText, [tenant]⟩ := by
  have hpieces : (ofTenant tenant).clause.pieces =
      [.text (columnText .organizationId ++ " = "), .param 0] := rfl
  have hbinds : (ofTenant tenant).clause.binds = [tenant] := rfl
  have htext : Clause.textFrom 0 [.text (columnText .organizationId ++ " = "), .param 0] =
      tenantText := by decide
  rw [Clause.render_eq, hpieces, hbinds, htext]

/-- The tests of a filter are there when some of its conditions count. -/
theorem testsFrom_eq_nil_iff {slot : Nat} {l : List (Field × Condition)} :
    testsFrom slot l = [] ↔ l = [] := by
  rw [← List.length_eq_zero_iff, length_testsFrom, List.length_eq_zero_iff]

theorem render_compile (tenant : String) (filter : Option Filter) :
    (compile tenant filter).clause.render =
      ⟨writtenText (connectiveOf filter) (outline filter) false,
        [tenant] ++ (applied filter).map (·.2.bound)⟩ := by
  cases filter with
  | none =>
      rw [compile, render_ofTenant]
      simp [writtenText, outline, applied]
  | some f =>
      have htests : (Group.ofFilter f).junction.tests = testsFrom 0 (registered f) := rfl
      have happlied : applied (some f) = registered f := rfl
      rw [compile, render_clause_andGroup, render_ofTenant, htests, map_written_testsFrom, outline,
        happlied, writtenText]
      simp only [testsFrom_eq_nil_iff, List.map_eq_nil_iff]
      by_cases hnone : registered f = []
      · simp [hnone]
      · have hbinds : (Group.ofFilter f).binds = (registered f).map (·.2.bound) := rfl
        have hword : (Group.ofFilter f).junction.connective = connectiveOf (some f) := rfl
        simp [hnone, hbinds, hword, ofTenant, Nat.add_assoc, String.append_assoc]

/-- The tests of a search term are written with one number. -/
theorem written_pattern_tests (offset : Nat) (pattern : String) :
    String.intercalate (writtenConnective (Group.ofPattern pattern).junction.connective)
        ((Group.ofPattern pattern).junction.tests.map (Test.written offset)) =
      searchText (offset + 1) := by
  have hwritten : ∀ column : Column, Test.written offset ⟨.column column, .like, 0⟩ =
      writtenColumn column ++ " LIKE " ++ placeholder (offset + 1) ++ " ESCAPE '\\'" := by
    intro column
    rw [Test.written, text_column, comparisonText, Nat.zero_add, columnText_eq]
  simp only [Group.ofPattern, searchText, writtenConnective, searched, List.map_cons, List.map_nil,
    hwritten, writtenColumn]

theorem matching_of_blank {tenant : String} {filter : Option Filter} {term : Option String}
    (h : Text.trim (term.getD "") = "") :
    matching tenant filter term = compile tenant filter := by
  cases term with
  | none => rfl
  | some term =>
      rw [Option.getD_some] at h
      rw [matching, search, ofSearch?_of_blank h]

theorem matching_of_not_blank {tenant : String} {filter : Option Filter} {term : Option String}
    (h : Text.trim (term.getD "") ≠ "") :
    matching tenant filter term = (compile tenant filter).andGroup
      (.ofPattern (Text.Pattern.containing (Text.trim (term.getD "")))) := by
  cases term with
  | none => exact absurd (by decide) h
  | some term =>
      rw [Option.getD_some] at h ⊢
      rw [matching, search, ofSearch?_of_not_blank h]

theorem render_matching_of_not_blank {tenant : String} {filter : Option Filter}
    {term : Option String} (h : Text.trim (term.getD "") ≠ "") :
    (matching tenant filter term).clause.render =
      ⟨writtenText (connectiveOf filter) (outline filter) true,
        [tenant] ++ (applied filter).map (·.2.bound) ++
          [Text.Pattern.containing (Text.trim (term.getD ""))]⟩ := by
  have hcompile := render_compile tenant filter
  have hbinds : (compile tenant filter).binds = [tenant] ++ (applied filter).map (·.2.bound) :=
    congrArg Rendered.params hcompile
  have hlength : (compile tenant filter).binds.length + 1 = (outline filter).length + 2 := by
    simp [hbinds, outline]
  have htests : ∀ pattern, (Group.ofPattern pattern).junction.tests ≠ [] :=
    fun _ => List.cons_ne_nil _ _
  rw [matching_of_not_blank h, render_clause_andGroup, if_neg (htests _), written_pattern_tests,
    hcompile, hlength, hbinds]
  simp [writtenText, String.append_assoc, Group.ofPattern]

/-- The text and the values of a query, with a search term or without. -/
theorem render_clause_matching (tenant : String) (filter : Option Filter) (term : Option String) :
    (matching tenant filter term).clause.render =
      ⟨writtenText (connectiveOf filter) (outline filter) (Text.trim (term.getD "") ≠ ""),
        [tenant] ++ (applied filter).map (·.2.bound) ++
          if Text.trim (term.getD "") = "" then []
          else [Text.Pattern.containing (Text.trim (term.getD ""))]⟩ := by
  by_cases h : Text.trim (term.getD "") = ""
  · rw [matching_of_blank h, render_compile]
    simp [h]
  · rw [render_matching_of_not_blank h]
    simp [h]

/-! ### What the text depends on -/

theorem not_mem_writtenColumn (column : Column) : '?' ∉ (writtenColumn column).toList := by
  cases column <;> decide

/-- Around the number of its value, a comparison is written without a question mark. -/
theorem exists_textComparison_eq (target : String) (h : '?' ∉ target.toList)
    (operator : Operator) :
    ∃ before after : String, '?' ∉ before.toList ∧ '?' ∉ after.toList ∧
      ∀ number, textComparison target operator number = before ++ placeholder number ++ after := by
  by_cases hequals : operator = .equals
  · subst hequals
    refine ⟨target ++ " = ", "", ?_, by decide, fun number => by simp [textComparison]⟩
    simp [h]
  · refine ⟨target ++ " LIKE ", " ESCAPE '\\'", ?_, by decide, fun number => ?_⟩
    · simp [h]
    · cases operator with
      | equals => exact absurd rfl hequals
      | _ => rfl

/-- Around the number of its value, a condition is written without a question mark. -/
theorem exists_conditionText_eq (field : Field) (operator : Operator) :
    ∃ before after : String, '?' ∉ before.toList ∧ '?' ∉ after.toList ∧
      ∀ number, conditionText field operator number = before ++ placeholder number ++ after := by
  cases field with
  | tags =>
      have hlinked : '?' ∉ linkedTagText.toList := by decide +kernel
      obtain ⟨before, after, hbefore, hafter, h⟩ :=
        exists_textComparison_eq "t.\"name\"" (by decide) operator
      refine ⟨linkedTagText ++ before, after ++ ")", ?_, ?_, fun number => ?_⟩
      · simp [hlinked, hbefore]
      · simp [hafter]
      · simp [conditionText, h, String.append_assoc]
  | own column kind =>
      by_cases hday : kind = .date ∧ operator = .equals
      · obtain ⟨rfl, rfl⟩ := hday
        refine ⟨"date(" ++ writtenColumn column ++ ") = date(", ")", ?_, by decide, fun _ => rfl⟩
        simp [not_mem_writtenColumn]
      · have htext : ∀ number, conditionText (.own column kind) operator number =
            textComparison (writtenColumn column) operator number := by
          cases kind <;> cases operator <;> simp_all [conditionText]
        simpa only [htext] using exists_textComparison_eq _ (not_mem_writtenColumn column) operator

/-- Without conditions that count it does not matter how they are joined. -/
theorem writtenText_nil (connective connective' : Connective) (searching : Bool) :
    writtenText connective [] searching = writtenText connective' [] searching := rfl

/-- **The text and the values of a query.**  The organisation is the first value, each condition
that counts has the next one, and a search term that is not blank has the last; the text mentions
each where it belongs.  A condition mentions its own value, once, and no other.  Two filters with
the same fields, operators and connective, searched or not searched alike, are written with the same
text, whatever the organisations, the values, the terms and the conditions that are passed over. -/
theorem render_matching (tenant : String) (filter : Option Filter) (term : Option String) :
    let sought := Text.trim (term.getD "")
    (matching tenant filter term).clause.render =
        ⟨writtenText (connectiveOf filter) (outline filter) (sought ≠ ""),
          [tenant] ++ (applied filter).map (·.2.bound) ++
            if sought = "" then [] else [Text.Pattern.containing sought]⟩ ∧
      (∀ field operator, ∃ before after : String, '?' ∉ before.toList ∧ '?' ∉ after.toList ∧
        ∀ number, conditionText field operator number = before ++ placeholder number ++ after) ∧
      ∀ tenant' filter' term', outline filter' = outline filter →
        (∀ f ∈ filter, ∀ f' ∈ filter', f'.connective = f.connective) →
        (Text.trim (term'.getD "") = "" ↔ sought = "") →
        (matching tenant' filter' term').clause.render.sql =
          (matching tenant filter term).clause.render.sql := by
  intro sought
  refine ⟨render_clause_matching tenant filter term, exists_conditionText_eq, ?_⟩
  intro tenant' filter' term' houtline hconnective hblank
  have hsearching : (Text.trim (term'.getD "") ≠ "") = (sought ≠ "") := by
    rw [Ne, Ne, hblank]
  rw [render_clause_matching, render_clause_matching, houtline]
  simp only [hsearching]
  cases filter with
  | none => exact writtenText_nil _ _ _
  | some f =>
      cases filter' with
      | none =>
          rw [← houtline]
          exact writtenText_nil _ _ _
      | some f' =>
          rw [connectiveOf, connectiveOf, Option.elim, Option.elim, hconnective f rfl f' rfl]

/-- Two filters with conditions on the same fields, one of them also on a field that there is not,
are written with one text, though the values of the second look like parts of a statement.  A filter
with other conditions, all of which have to hold, is written with another one. -/
theorem render_matching_officeParty :
    let filter : Filter :=
      ⟨[⟨"city", .contains, "50%"⟩, ⟨"shoe size", .equals, "7"⟩, ⟨"tags", .equals, "vip"⟩,
        ⟨"createdAt", .equals, "2024-01-01"⟩], .any⟩
    let other : Filter :=
      ⟨[⟨"city", .contains, "' OR 1 = 1 --"⟩, ⟨"tags", .equals, "?1"⟩, ⟨"createdAt", .equals, ""⟩],
        .any⟩
    let both : Filter := ⟨[⟨"title", .equals, "VP"⟩, ⟨"createdAt", .startsWith, "2024-"⟩], .all⟩
    let query := matching "acme" (some filter) (some " ada ")
    query.clause.render.params = ["acme", "%50\\%%", "vip", "2024-01-01", "%ada%"] ∧
      query.clause.render.sql =
        "c.\"organizationId\" = ?1 AND (c.\"city\" LIKE ?2 ESCAPE '\\' OR EXISTS (SELECT 1 FROM " ++
        "\"ContactTag\" ct JOIN \"Tag\" t ON t.\"id\" = ct.\"tagId\" WHERE ct.\"contactId\" = " ++
        "c.\"id\" AND t.\"name\" = ?3) OR date(c.\"createdAt\") = date(?4)) AND (" ++
        "c.\"firstName\" LIKE ?5 ESCAPE '\\' OR c.\"lastName\" LIKE ?5 ESCAPE '\\' OR " ++
        "c.\"email\" LIKE ?5 ESCAPE '\\' OR c.\"leadStatus\" LIKE ?5 ESCAPE '\\' OR " ++
        "c.\"title\" LIKE ?5 ESCAPE '\\' OR c.\"currentCompanyName\" LIKE ?5 ESCAPE '\\')" ∧
      (matching "glo\"bex" (some other) (some "x")).clause.render.sql =
        query.clause.render.sql ∧
      (matching "acme" (some both) (some " ")).clause.render =
        ⟨"c.\"organizationId\" = ?1 AND (c.\"title\" = ?2 AND c.\"createdAt\" LIKE ?3 ESCAPE '\\')",
          ["acme", "VP", "2024-%"]⟩ := by
  intro filter other both query
  obtain ⟨hrender, -, hsame⟩ := render_matching "acme" (some filter) (some " ada ")
  obtain ⟨hboth, -, -⟩ := render_matching "acme" (some both) (some " ")
  have houtline : outline (some other) = outline (some filter) := by decide +kernel
  refine ⟨(congrArg Rendered.params hrender).trans (by decide +kernel),
    (congrArg Rendered.sql hrender).trans (by decide +kernel),
    hsame "glo\"bex" (some other) (some "x") houtline ?_ (by decide +kernel),
    hboth.trans (by decide +kernel)⟩
  rintro _ ⟨⟩ _ ⟨⟩
  rfl

end ContactBook.Query
