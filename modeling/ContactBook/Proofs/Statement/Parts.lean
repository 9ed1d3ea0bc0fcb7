/-
**Reading a text in parts.**

A text that is put together is read by its parts.  What a part is read as may depend on what follows
it: digits go on with a number, and the word for a conjunction goes on with a condition.  So each
part is read here with whatever may follow it, and the parts are then put together without a look at
their words.

Main definitions:

* `ContactBook.Statement.IsClosed`, `ContactBook.Statement.Scans` — the words of a part, that ends
  between two of them or in front of something that is no part of a word;
* `ContactBook.Statement.Finds` — **the condition that is found in a part**.

Main results:

* `ContactBook.Statement.Scans.append` — texts one after the other are scanned one after the other;
* `ContactBook.Statement.Finds.chain` — **conditions with a word between any two are read as one**,
  provided that nothing that may follow a single one goes on with the word;
* `ContactBook.Statement.Finds.parenthesized`, `ContactBook.Statement.Finds.exists` — conditions
  within conditions;
* `ContactBook.Statement.Finds.read?_eq` — a condition that is found in the whole of a text is the
  condition that the text is.
-/

import ContactBook.Proofs.Decimal.Natural
import ContactBook.Proofs.Statement.Reader

set_option autoImplicit false

namespace ContactBook.Statement

/-! ### Scanning a text in parts -/

theorem steps?_append (b : Begun) (cs cs' : List Char) :
    steps? b (cs ++ cs') =
      (steps? b cs).bind fun p => (steps? p.2 cs').map fun p' => (p.1 ++ p'.1, p'.2) := by
  induction cs generalizing b with
  | nil => simp [steps?]
  | cons c cs ih =>
      cases hc : step? b c with
      | none => simp [steps?, hc]
      | some p =>
          cases hcs : steps? p.2 cs with
          | none => simp [steps?, hc, ih, hcs]
          | some p' =>
              cases hcs' : steps? p'.2 cs' <;> simp [steps?, hc, ih, hcs, hcs', List.append_assoc]

/-- What has been scanned does not depend on what follows. -/
theorem scan_append_of_steps {b b' : Begun} {cs : List Char} {ts : List Token}
    (h : steps? b cs = some (ts, b')) (rest : List Char) :
    scan b (cs ++ rest) = (scan b' rest).map (ts ++ ·) := by
  cases hrest : steps? b' rest with
  | none => simp [scan, steps?_append, h, hrest]
  | some p => cases hend : end? p.2 <;> simp [scan, steps?_append, h, hrest, hend]

/-- The tokens of a text that ends between two words. -/
def IsClosed (text : String) (ts : List Token) : Prop :=
  steps? .nothing text.toList = some (ts, .nothing)

instance (text : String) (ts : List Token) : Decidable (IsClosed text ts) :=
  inferInstanceAs (Decidable (_ = _))

/-- Whether no word or number goes on where a text begins. -/
def BeginsApart (rest : List Char) : Prop := ∀ c ∈ rest.head?, c.isAlphanum = false

/-- The tokens of a text, whatever follows that does not go on with a word or a number. -/
def Scans (text : String) (ts : List Token) : Prop :=
  ∀ rest, BeginsApart rest →
    scan .nothing (text.toList ++ rest) = (scan .nothing rest).map (ts ++ ·)

section

variable {a b : String} {ts ts' : List Token}

theorem IsClosed.append_scans (ha : IsClosed a ts) (hb : Scans b ts') :
    Scans (a ++ b) (ts ++ ts') := by
  intro rest hrest
  rw [String.toList_append, List.append_assoc, scan_append_of_steps ha, hb rest hrest]
  simp [Function.comp_def]

theorem IsClosed.scans (h : IsClosed a ts) : Scans a ts :=
  fun rest _ => scan_append_of_steps h rest

theorem Scans.append (ha : Scans a ts) (hapart : BeginsApart b.toList) (hb : Scans b ts') :
    Scans (a ++ b) (ts ++ ts') := by
  intro rest hrest
  have hnext : BeginsApart (b.toList ++ rest) := by
    cases hchars : b.toList with
    | nil => exact hrest
    | cons c cs =>
        rw [hchars] at hapart
        exact hapart
  rw [String.toList_append, List.append_assoc, ha _ hnext, hb rest hrest]
  simp [Function.comp_def]

/-- A parenthesis ends whatever stands before it. -/
theorem Scans.close (h : Scans a ts) : Scans (a ++ ")") (ts ++ [.sign ')']) := by
  have hsign : IsClosed ")" [.sign ')'] := by decide
  exact h.append (by simp [BeginsApart]) hsign.scans

theorem Scans.scan_eq (h : Scans a ts) : scan .nothing a.toList = some ts := by
  have hend := h [] fun c hc => nomatch hc
  rw [List.append_nil] at hend
  rw [hend]
  simp [scan, steps?, end?]

end

/-- The number of a value goes on as far as its digits do. -/
theorem steps?_bound {begun digits : List Char} (h : ∀ c ∈ digits, c.isDigit = true) :
    steps? (.bound begun) digits = some ([], .bound (begun ++ digits)) := by
  induction digits generalizing begun with
  | nil => simp [steps?]
  | cons c digits ih =>
      have hc := h c List.mem_cons_self
      have hrest := @ih (begun ++ [c]) fun d hd => h d (List.mem_cons_of_mem _ hd)
      simp [steps?, step?, hc, hrest]

/-- A number ends where something else begins. -/
theorem scan_bound {digits rest : List Char} (hdigits : digits ≠ []) (hrest : BeginsApart rest) :
    scan (.bound digits) rest =
      (scan .nothing rest).map ([.bound (Decimal.numberOf digits)] ++ ·) := by
  cases rest with
  | nil => simp [scan, steps?, end?, hdigits]
  | cons c rest =>
      have hc : c.isDigit = false := by
        have hc := hrest c rfl
        rw [Char.isAlphanum, Bool.or_eq_false_iff] at hc
        exact hc.2
      cases hbegin : begin? c with
      | none => simp [scan, steps?, step?, hc, hdigits, begin?After, hbegin]
      | some p =>
          cases hsteps : steps? p.2 rest with
          | none => simp [scan, steps?, step?, hc, hdigits, begin?After, hbegin, hsteps]
          | some p' =>
              cases hend : end? p'.2 <;>
                simp [scan, steps?, step?, hc, hdigits, begin?After, hbegin, hsteps, hend]

/-- The number of a value is scanned as the number. -/
theorem scans_placeholder (number : Nat) :
    Scans ("?" ++ Nat.repr number) [.bound number] := by
  have hdigits : (Nat.repr number).toList ≠ [] :=
    Decimal.padded_zero number ▸ Decimal.padded_ne_nil 0 number
  have hsteps : steps? .nothing ("?" ++ Nat.repr number).toList =
      some ([], .bound (Nat.repr number).toList) := by
    have hmark : steps? .nothing "?".toList = some ([], .bound []) := by decide
    have hnumber := @steps?_bound [] (Nat.repr number).toList fun c => Decimal.isDigit_of_mem_repr
    rw [String.toList_append, steps?_append, hmark, Option.bind_some, hnumber]
    rfl
  intro rest hrest
  rw [scan_append_of_steps hsteps, scan_bound hdigits hrest, Decimal.numberOf_repr,
    Option.map_map]
  rfl

/-! ### Comparisons -/

section

variable {a b : String} {v w : Value} {ts : List Token} {p : Value × List Token}
  {q : Expression × List Token}

theorem value?_of_operand? (h : operand? ts = some p) : value? ts = some p := by
  unfold value?
  split
  · simp [operand?] at h
  · exact h

theorem primary?_of_comparison? {inner : List Token → Option (Expression × List Token)}
    (h : comparison? ts = some q) : primary? inner ts = some q := by
  unfold primary?
  split
  · simp [comparison?, value?, operand?] at h
  · simp [comparison?, value?, operand?] at h
  · exact h

/-- Whether a text is a column or the number of a value, whatever follows. -/
def IsOperand (text : String) (v : Value) : Prop :=
  ∃ ts, Scans text ts ∧ ∀ rest, operand? (ts ++ rest) = some (v, rest)

/-- Whether a text is a value, whatever follows. -/
def IsValue (text : String) (v : Value) : Prop :=
  ∃ ts, Scans text ts ∧ ∀ rest, value? (ts ++ rest) = some (v, rest)

theorem isOperand_column {row name : String}
    (h : IsClosed a [.word row, .sign '.', .name name]) : IsOperand a (.column row name) :=
  ⟨_, h.scans, fun _ => rfl⟩

theorem isOperand_placeholder (number : Nat) :
    IsOperand ("?" ++ Nat.repr number) (.bound number) :=
  ⟨_, scans_placeholder number, fun _ => rfl⟩

theorem IsOperand.isValue (h : IsOperand a v) : IsValue a v := by
  obtain ⟨ts, hscans, hread⟩ := h
  exact ⟨ts, hscans, fun rest => value?_of_operand? (hread rest)⟩

/-- The day of a value. -/
theorem IsOperand.date (h : IsOperand a v) : IsValue ("date(" ++ a ++ ")") (.date v) := by
  obtain ⟨ts, hscans, hread⟩ := h
  have hopening : IsClosed "date(" [.word "date", .sign '('] := by decide
  refine ⟨_, (hopening.append_scans hscans).close, fun rest => ?_⟩
  simp [value?, hread]

end

/-! ### Conditions in parts -/

/-- **Whether a condition is found in a text**, whatever follows of which `Follows` is true. -/
def Finds (read : List Token → Option (Expression × List Token)) (Follows : List Token → Prop)
    (text : String) (e : Expression) : Prop :=
  ∃ ts, Scans text ts ∧ ∀ rest, Follows rest → read (ts ++ rest) = some (e, rest)

/-- What may follow where anything may. -/
def Anything (_ : List Token) : Prop := True

/-- What may follow conditions with a word between any two. -/
def Ends (Follows : List Token → Prop) (word : String) (rest : List Token) : Prop :=
  Follows rest ∧ rest.head? ≠ some (.word word)

/-- What may follow a whole condition. -/
def EndsCondition : List Token → Prop := Ends (Ends Anything "AND") "OR"

theorem endsCondition_nil : EndsCondition [] := ⟨⟨trivial, nofun⟩, nofun⟩

theorem endsCondition_cons {t : Token} (hand : t ≠ .word "AND") (hor : t ≠ .word "OR")
    (rest : List Token) : EndsCondition (t :: rest) :=
  ⟨⟨trivial, fun h => hand (Option.some.inj h)⟩, fun h => hor (Option.some.inj h)⟩

section

variable {a b : String} {v w : Value}

theorem IsValue.equals (ha : IsValue a v) (hb : IsValue b w) :
    Finds comparison? Anything (a ++ " = " ++ b) (.equals v w) := by
  obtain ⟨ts, hscans, hread⟩ := ha
  obtain ⟨ts', hscans', hread'⟩ := hb
  have hsign : IsClosed " = " [.sign '='] := by decide
  refine ⟨ts ++ ([.sign '='] ++ ts'), ?_, fun rest _ => ?_⟩
  · rw [String.append_assoc]
    exact hscans.append (by simp [BeginsApart]) (hsign.append_scans hscans')
  · simp [comparison?, hread, hread']

theorem IsValue.like (ha : IsValue a v) (hb : IsValue b w) :
    Finds comparison? Anything (a ++ " LIKE " ++ b ++ " ESCAPE '\\'") (.like v w) := by
  obtain ⟨ts, hscans, hread⟩ := ha
  obtain ⟨ts', hscans', hread'⟩ := hb
  have hword : IsClosed " LIKE " [.word "LIKE"] := by decide
  have hescape : IsClosed " ESCAPE '\\'" [.word "ESCAPE", .literal "\\"] := by decide
  refine ⟨ts ++ ([.word "LIKE"] ++ (ts' ++ [.word "ESCAPE", .literal "\\"])), ?_, fun rest _ => ?_⟩
  · rw [String.append_assoc, String.append_assoc]
    refine hscans.append (by simp [BeginsApart]) (hword.append_scans ?_)
    exact hscans'.append (by simp [BeginsApart]) hescape.scans
  · simp [comparison?, hread, hread']

end

section

variable {read inner : List Token → Option (Expression × List Token)}
  {Follows : List Token → Prop} {word : String} {join : Expression → Expression → Expression}
  {a b : String} {e e' : Expression}

theorem Finds.primary (h : Finds comparison? Follows a e) : Finds (primary? inner) Follows a e := by
  obtain ⟨ts, hscans, hread⟩ := h
  exact ⟨ts, hscans, fun rest hrest => primary?_of_comparison? (hread rest hrest)⟩

/-- A condition in parentheses. -/
theorem Finds.parenthesized (h : Finds inner Follows a e)
    (hend : ∀ rest, Follows (.sign ')' :: rest)) :
    Finds (primary? inner) Anything ("(" ++ a ++ ")") e := by
  obtain ⟨ts, hscans, hread⟩ := h
  have hopening : IsClosed "(" [.sign '('] := by decide
  refine ⟨_, (hopening.append_scans hscans).close, fun rest _ => ?_⟩
  simp [primary?, hread _ (hend rest)]

/-- A question about joined rows. -/
theorem Finds.exists {opening table row table' row' : String}
    (hopening : IsClosed opening [.word "EXISTS", .sign '(', .word "SELECT", .word "1",
      .word "FROM", .name table, .word row, .word "JOIN", .name table', .word row', .word "ON"])
    (ha : Finds inner Follows a e) (hwhere : ∀ rest, Follows (.word "WHERE" :: rest))
    (hb : Finds inner Follows b e') (hend : ∀ rest, Follows (.sign ')' :: rest)) :
    Finds (primary? inner) Anything (opening ++ (a ++ (" WHERE " ++ (b ++ ")"))))
      (.exists table row table' row' e e') := by
  obtain ⟨ts, hscans, hread⟩ := ha
  obtain ⟨ts', hscans', hread'⟩ := hb
  have hword : IsClosed " WHERE " [.word "WHERE"] := by decide
  have hcondition := hword.append_scans hscans'.close
  refine ⟨_, hopening.append_scans (hscans.append (by simp [BeginsApart]) hcondition),
    fun rest _ => ?_⟩
  simp [primary?, hread _ (hwhere _), hread' _ (hend rest)]

/-! ### Conditions with a word between any two -/

theorem more?_of_ends (count : Nat) (e : Expression) {rest : List Token}
    (h : Ends Follows word rest) : more? read word join count e rest = some (e, rest) := by
  unfold more?
  split
  next count e w rest =>
    rw [if_neg]
    rintro rfl
    exact h.2 rfl
  next => rfl

variable {α : Type} {text : α → String} {condition : α → Expression}

/-- What stands behind the first of some conditions: each with the word before it. -/
def moreText (word : String) (text : α → String) (others : List α) : String :=
  String.join (others.map fun a => " " ++ word ++ " " ++ text a)

theorem beginsApart_moreText (others : List α) :
    BeginsApart (moreText word text others).toList := by
  cases others with
  | nil => exact fun c hc => nomatch hc
  | cons a others => simp [BeginsApart, moreText, String.join_cons]

/-- Conditions that come with a word before each are read on. -/
theorem exists_scans_moreText (hword : IsClosed (" " ++ word ++ " ") [.word word])
    (hfollows : ∀ rest, Follows (.word word :: rest)) {others : List α}
    (h : ∀ a ∈ others, Finds read Follows (text a) (condition a)) :
    ∃ ts, Scans (moreText word text others) ts ∧
      ∀ rest, Ends Follows word rest → Follows (ts ++ rest) ∧
        ∀ count e, ts.length ≤ count → more? read word join count e (ts ++ rest) =
          some ((others.map condition).foldl join e, rest) := by
  induction others with
  | nil =>
      refine ⟨[], IsClosed.scans rfl, fun rest hrest => ⟨hrest.1, fun count e _ => ?_⟩⟩
      exact more?_of_ends count e hrest
  | cons a others ih =>
      obtain ⟨first, hscans, hread⟩ := h a List.mem_cons_self
      obtain ⟨ts, hscans', hmore⟩ := ih fun a' ha' => h a' (List.mem_cons_of_mem _ ha')
      refine ⟨.word word :: (first ++ ts), ?_, fun rest hrest => ⟨hfollows _, ?_⟩⟩
      · rw [moreText, List.map_cons, String.join_cons, String.append_assoc]
        exact hword.append_scans (hscans.append (beginsApart_moreText others) hscans')
      · intro count e hcount
        obtain ⟨hnext, hmore⟩ := hmore rest hrest
        cases count with
        | zero => exact absurd hcount (by simp)
        | succ count =>
            rw [List.cons_append, more?, if_pos rfl, List.append_assoc, hread _ hnext]
            exact hmore count _ (by simp at hcount; omega)

/-- **Conditions with a word between any two are read as one.** -/
theorem Finds.chain (hword : IsClosed (" " ++ word ++ " ") [.word word])
    (hfollows : ∀ rest, Follows (.word word :: rest)) {others : List α}
    (hfirst : Finds read Follows a e)
    (h : ∀ a ∈ others, Finds read Follows (text a) (condition a)) :
    Finds (chain? read word join) (Ends Follows word) (a ++ moreText word text others)
      ((others.map condition).foldl join e) := by
  obtain ⟨first, hscans, hread⟩ := hfirst
  obtain ⟨ts, hscans', hmore⟩ := exists_scans_moreText hword hfollows h
  refine ⟨first ++ ts, hscans.append (beginsApart_moreText others) hscans', fun rest hrest => ?_⟩
  obtain ⟨hnext, hmore⟩ := hmore rest hrest
  rw [List.append_assoc, chain?, hread _ hnext]
  exact hmore _ e (by simp)

/-- One condition alone is read as well. -/
theorem Finds.single (h : Finds read Follows a e) :
    Finds (chain? read word join) (Ends Follows word) a e := by
  obtain ⟨ts, hscans, hread⟩ := h
  refine ⟨ts, hscans, fun rest hrest => ?_⟩
  rw [chain?, hread _ hrest.1]
  exact more?_of_ends _ e hrest

variable {depth : Nat} {others : List α}

theorem Finds.conjunction (hfirst : Finds (primary? (expression? depth)) Anything a e)
    (h : ∀ a ∈ others, Finds (primary? (expression? depth)) Anything (text a) (condition a)) :
    Finds (expression? (depth + 1)) EndsCondition (a ++ moreText "AND" text others)
      ((others.map condition).foldl .and e) :=
  (Finds.chain (by decide) (fun _ => trivial) hfirst h).single

/-- Two conditions with the word for a conjunction between them. -/
theorem Finds.both (ha : Finds (primary? (expression? depth)) Anything a e)
    (hb : Finds (primary? (expression? depth)) Anything b e') :
    Finds (expression? (depth + 1)) EndsCondition (a ++ " AND " ++ b) (.and e e') := by
  have hmore : ∀ p ∈ [(b, e')], Finds (primary? (expression? depth)) Anything p.1 p.2 := by
    intro p hp
    obtain rfl := List.mem_singleton.1 hp
    exact hb
  have hword : " " ++ "AND" ++ " " = " AND " := by decide
  simpa [moreText, hword, String.append_assoc] using ha.conjunction hmore

theorem Finds.disjunction (hfirst : Finds (primary? (expression? depth)) Anything a e)
    (h : ∀ a ∈ others, Finds (primary? (expression? depth)) Anything (text a) (condition a)) :
    Finds (expression? (depth + 1)) EndsCondition (a ++ moreText "OR" text others)
      ((others.map condition).foldl .or e) :=
  Finds.chain (by decide) (fun _ => ⟨trivial, by simp⟩) hfirst.single fun a ha => (h a ha).single

/-- **A condition that is found in the whole of a text is the condition that the text is.** -/
theorem Finds.read?_eq (h : Finds (expression? a.length) EndsCondition a e) :
    read? a = some e := by
  obtain ⟨ts, hscans, hread⟩ := h
  have hend := hread [] endsCondition_nil
  rw [List.append_nil] at hend
  rw [read?, hscans.scan_eq]
  simp [hend]

end

end ContactBook.Statement
