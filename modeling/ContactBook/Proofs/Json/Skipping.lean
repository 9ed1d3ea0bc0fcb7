/-
**Skipping a value looks no further than the value.**

A value that nobody asked for is skipped with a stack of brackets instead of by recursion, in a
number of steps that is bounded by twice the length of the whole text.  This module proves that what
is skipped is skipped by itself, as it is proved for words: a character takes at most two steps, one
that reads it and, after an opening bracket, one that reads nothing.

Main results:

* `ContactBook.Json.skipFrom_takes` — the invariant of the loop;
* `ContactBook.Json.skipValue_takes` — a skipped value is skipped by itself.
-/

import ContactBook.Proofs.Json.Words

set_option autoImplicit false

namespace ContactBook.Json

variable {size : Nat} {cs rest : List Char}

/-- The name of a member is skipped by itself. -/
theorem skipName_takes (h : skipName size cs = .ok rest) :
    ∃ piece, piece ≠ [] ∧ cs = piece ++ rest ∧ ∀ q size', (piece ++ q).length ≤ size' →
      skipName size' (piece ++ q) = .ok q := by
  unfold skipName at h
  split at h
  · exact nomatch h
  next after hquote =>
    obtain ⟨w, rfl, hw⟩ := skipSpace_eq_cons hquote
    obtain ⟨after, hstring, hcolon⟩ := bind_eq_ok_iff.1 h
    obtain ⟨name, -, rfl, hname⟩ := skipString_takes hstring
    split at hcolon
    · exact nomatch hcolon
    next after hskip =>
      obtain rfl := Except.ok.inj hcolon
      obtain ⟨w', rfl, hw'⟩ := skipSpace_eq_cons hskip
      -- spaces, a string, spaces and a colon
      refine ⟨w ++ '"' :: (name ++ (w' ++ [':'])), by simp, by simp, fun q size' hsize => ?_⟩
      have hread := hname (w' ++ ':' :: q) (size' + 1) (by
        simp only [List.length_append, List.length_cons] at hsize
        omega)
      simp only [List.append_assoc, List.cons_append, List.nil_append, skipName, hw, hread, hw',
        bind, Except.bind, pure, Except.pure]
    · exact nomatch hcolon
  · exact nomatch h

/-- A scalar, or an opening bracket, is skipped by itself. -/
theorem skipScalar_local : Local skipScalar := by
  intro size cs bracket rest h
  unfold skipScalar at h
  split at h
  · exact nomatch h
  next c after hskip =>
    obtain ⟨w, rfl, hw⟩ := skipSpace_eq_cons hskip
    refine takes_behind (P := fun size cs q => skipScalar size cs = .ok (bracket, q)) ?_
    have hword : ∀ ws, (readWord ws after).map ((none : Option Bracket), ·) = .ok (bracket, rest) →
        ∃ piece, after = piece ++ rest ∧ ∀ q, (readWord ws (piece ++ q)).map (none, ·) =
          .ok (bracket, q) := by
      intro ws h
      obtain ⟨after, rfl, heq, hread⟩ := word_takes h
      obtain ⟨rfl, rfl⟩ := Prod.mk.inj heq
      exact ⟨ws, rfl, hread⟩
    have hnumeral : ∀ cs, (readNumeral .invalidNumber cs).map
        (fun x => ((none : Option Bracket), x.2)) = .ok (bracket, rest) →
        ∃ piece, piece ≠ [] ∧ cs = piece ++ rest ∧ ∀ q, q <+: rest →
          (readNumeral .invalidNumber (piece ++ q)).map (fun x => ((none : Option Bracket), x.2)) =
            .ok (bracket, q) := by
      intro cs h
      obtain ⟨⟨n, after⟩, hnumeral, heq⟩ := map_eq_ok_iff.1 h
      obtain ⟨rfl, rfl⟩ := Prod.mk.inj heq
      obtain ⟨piece, hne, rfl, htakes⟩ := readNumeral_takes hnumeral
      refine ⟨piece, hne, rfl, fun q hq => ?_⟩
      have hread := htakes q _ hq (Nat.le_refl _)
      simp only at hread
      rw [hread]
      rfl
    simp only [skipScalar, hw]
    split_ifs at h
    all_goals simp only [*, Bool.false_eq_true, if_true, if_false]
    · obtain ⟨piece, rfl, hread⟩ := hword _ h
      exact ⟨piece, rfl, fun q _ _ _ => hread q⟩
    · obtain ⟨piece, rfl, hread⟩ := hword _ h
      exact ⟨piece, rfl, fun q _ _ _ => hread q⟩
    · obtain ⟨piece, rfl, hread⟩ := hword _ h
      exact ⟨piece, rfl, fun q _ _ _ => hread q⟩
    · obtain ⟨piece, -, rfl, hread⟩ := hnumeral _ h
      exact ⟨piece, rfl, fun q _ hq _ => hread q hq⟩
    · -- the digit that tells that this is a number is a part of it
      obtain ⟨piece, hne, hcs, hread⟩ := hnumeral _ h
      obtain ⟨tail, rfl, rfl⟩ := exists_tail_of_cons_eq_append hcs hne
      exact ⟨tail, rfl, fun q _ hq _ => hread q hq⟩
    · obtain ⟨after, hstring, heq⟩ := map_eq_ok_iff.1 h
      obtain ⟨rfl, rfl⟩ := Prod.mk.inj heq
      obtain ⟨piece, -, rfl, hread⟩ := skipString_takes hstring
      refine ⟨piece, rfl, fun q size' _ hsize => ?_⟩
      rw [List.length_append] at hsize
      rw [hread q (size' + 1) (by omega)]
      rfl
    · obtain ⟨rfl, rfl⟩ := Prod.mk.inj (Except.ok.inj h)
      exact ⟨[], rfl, fun _ _ _ _ => rfl⟩
    · obtain ⟨rfl, rfl⟩ := Prod.mk.inj (Except.ok.inj h)
      exact ⟨[], rfl, fun _ _ _ _ => rfl⟩

/-! ### The loop -/

/-- The character that closes a bracket. -/
def Bracket.closing : Bracket → Char
  | .list => ']'
  | .object => '}'

/-- The break of the grammar where a value comes after another one without a comma. -/
def Bracket.unclosed : Bracket → SyntaxFault
  | .list => .expectedListEnd
  | .object => .expectedObjectEnd

/-- The rest of a text from the next value in a bracket on: in an object, after its name. -/
def skipToValue (size : Nat) (cs : List Char) : Bracket → Except SyntaxFault (List Char)
  | .list => .ok cs
  | .object => skipName size cs

theorem skipToValue_takes {bracket : Bracket} (h : skipToValue size cs bracket = .ok rest) :
    ∃ piece, cs = piece ++ rest ∧ ∀ q size', (piece ++ q).length ≤ size' →
      skipToValue size' (piece ++ q) bracket = .ok q := by
  cases bracket with
  | list =>
      obtain rfl := Except.ok.inj h
      exact ⟨[], rfl, fun _ _ _ => rfl⟩
  | object =>
      obtain ⟨piece, -, rfl, hread⟩ := skipName_takes h
      exact ⟨piece, rfl, hread⟩

/-- What the loop does where a value is expected: a bracket comes on top of those that are open. -/
theorem skipFrom_value {fuel : Nat} {stack : List Bracket} :
    skipFrom size (fuel + 1) .value stack cs =
      skipScalar size cs >>= fun found =>
        skipFrom size fuel (.more found.1.isNone) (found.1.toList ++ stack) found.2 := by
  rw [skipFrom]
  cases skipScalar size cs with
  | error fault => rfl
  | ok found => obtain ⟨_ | bracket, after⟩ := found <;> rfl

/-- What the loop does where a bracket is open, by the next character that is no space. -/
theorem skipFrom_more {c : Char} {after : List Char} {fuel : Nat} {afterValue : Bool}
    {bracket : Bracket} {stack : List Bracket} (h : skipSpace cs = c :: after) :
    skipFrom size (fuel + 1) (.more afterValue) (bracket :: stack) cs =
      if c = bracket.closing then skipFrom size fuel (.more true) stack after
      else if afterValue = true ∧ c ≠ ',' then
        .error bracket.unclosed
      else
        skipToValue size (if afterValue then after else c :: after) bracket >>=
          skipFrom size fuel .value (bracket :: stack) := by
  cases bracket with
  | list =>
      by_cases hclose : c = ']'
      · subst hclose
        simp [skipFrom, h, Bracket.closing]
      · cases afterValue <;> by_cases hcomma : c = ',' <;>
          simp [skipFrom, h, Bracket.closing, Bracket.unclosed, hclose, hcomma, skipToValue, bind,
            Except.bind]
  | object =>
      by_cases hclose : c = '}'
      · subst hclose
        simp [skipFrom, h, Bracket.closing]
      · cases afterValue with
        | false =>
            simp [skipFrom, h, Bracket.closing, hclose, skipToValue]
            cases skipName size (c :: after) <;> rfl
        | true =>
            by_cases hcomma : c = ','
            · subst hcomma
              simp [skipFrom, h, Bracket.closing, skipToValue]
              cases skipName size after <;> rfl
            · simp [skipFrom, h, Bracket.closing, Bracket.unclosed, hclose, hcomma]

/-- How many steps of the loop read nothing, beside the two for each character. -/
def Expecting.idle : Expecting → Nat
  | .value => 0
  | .more _ => 1

/-- **The invariant of the loop**: a piece of a text is skipped by itself, in two steps for each of
its characters and one that finds no bracket to close. -/
def Skips (expecting : Expecting) (stack : List Bracket) (piece rest : List Char) : Prop :=
  ∀ q size fuel, q <+: rest → (piece ++ q).length ≤ size →
    2 * piece.length + expecting.idle ≤ fuel →
    skipFrom size fuel expecting stack (piece ++ q) = .ok q

namespace Skips

variable {w piece₁ piece₂ : List Char} {c : Char} {bracket : Bracket} {stack : List Bracket}

theorem done {afterValue : Bool} : Skips (.more afterValue) [] [] rest := by
  rintro q size (_ | fuel) _ _ hfuel
  · simp [Expecting.idle] at hfuel
  · rfl

theorem value {found : Option Bracket} (hne : piece₁ ≠ [])
    (hscalar : Takes skipScalar piece₁ found (piece₂ ++ rest))
    (h : Skips (.more found.isNone) (found.toList ++ stack) piece₂ rest) :
    Skips .value stack (piece₁ ++ piece₂) rest := by
  intro q size fuel hq hsize hfuel
  have hpos := List.length_pos_iff.2 hne
  simp only [List.length_append, Expecting.idle] at hsize hfuel
  obtain ⟨fuel, rfl⟩ : ∃ n, fuel = n + 1 := ⟨fuel - 1, by omega⟩
  have hread := hscalar (piece₂ ++ q) size ((List.prefix_append_right_inj _).2 hq)
    (by simp only [List.length_append]; omega)
  rw [List.append_assoc, skipFrom_value, hread]
  exact h q size fuel hq (by simp only [List.length_append]; omega)
    (by simp only [Expecting.idle]; omega)

theorem close {afterValue : Bool} (hw : ∀ q, skipSpace (w ++ c :: q) = c :: q)
    (hc : c = bracket.closing) (h : Skips (.more true) stack piece₂ rest) :
    Skips (.more afterValue) (bracket :: stack) (w ++ c :: piece₂) rest := by
  intro q size fuel hq hsize hfuel
  simp only [List.length_append, List.length_cons, Expecting.idle] at hsize hfuel
  obtain ⟨fuel, rfl⟩ : ∃ n, fuel = n + 1 := ⟨fuel - 1, by omega⟩
  rw [List.append_assoc, List.cons_append, skipFrom_more (hw _), if_pos hc]
  exact h q size fuel hq (by simp only [List.length_append]; omega)
    (by simp only [Expecting.idle]; omega)

/-- After a comma the next value follows. -/
theorem comma (hw : ∀ q, skipSpace (w ++ ',' :: q) = ',' :: q)
    (hname : ∀ q size, (piece₁ ++ q).length ≤ size →
      skipToValue size (piece₁ ++ q) bracket = .ok q)
    (h : Skips .value (bracket :: stack) piece₂ rest) :
    Skips (.more true) (bracket :: stack) (w ++ ',' :: (piece₁ ++ piece₂)) rest := by
  intro q size fuel hq hsize hfuel
  simp only [List.length_append, List.length_cons, Expecting.idle] at hsize hfuel
  obtain ⟨fuel, rfl⟩ : ∃ n, fuel = n + 1 := ⟨fuel - 1, by omega⟩
  have hread := hname (piece₂ ++ q) size (by simp only [List.length_append]; omega)
  have hclosing : ',' ≠ bracket.closing := by cases bracket <;> decide
  rw [List.append_assoc, List.cons_append, skipFrom_more (hw _), if_neg hclosing, if_neg (by simp),
    if_pos rfl, List.append_assoc, hread]
  exact h q size fuel hq (by simp only [List.length_append]; omega)
    (by simp only [Expecting.idle]; omega)

/-- After an opening bracket the first value follows at once; its first character is looked at, but
not read. -/
theorem first (hw : ∀ q, skipSpace (w ++ c :: q) = c :: q) (hc : c ≠ bracket.closing)
    {piece : List Char} (hpiece : piece₁ ++ piece₂ = c :: piece)
    (hname : ∀ q size, (piece₁ ++ q).length ≤ size →
      skipToValue size (piece₁ ++ q) bracket = .ok q)
    (h : Skips .value (bracket :: stack) piece₂ rest) :
    Skips (.more false) (bracket :: stack) (w ++ (piece₁ ++ piece₂)) rest := by
  intro q size fuel hq hsize hfuel
  have hlength := congrArg List.length hpiece
  simp only [List.length_append, List.length_cons, Expecting.idle] at hsize hfuel hlength
  obtain ⟨fuel, rfl⟩ : ∃ n, fuel = n + 1 := ⟨fuel - 1, by omega⟩
  have hread := hname (piece₂ ++ q) size (by simp only [List.length_append]; omega)
  rw [← List.append_assoc, hpiece, List.cons_append] at hread
  rw [List.append_assoc, hpiece, List.cons_append, skipFrom_more (hw _), if_neg hc,
    if_neg (by simp), if_neg Bool.false_ne_true, hread]
  exact h q size fuel hq (by simp only [List.length_append]; omega)
    (by simp only [Expecting.idle]; omega)

end Skips

/-- **What the loop skips is skipped by itself.**  A value has some character. -/
theorem skipFrom_takes {fuel : Nat} {expecting : Expecting} {stack : List Bracket}
    (h : skipFrom size fuel expecting stack cs = .ok rest) :
    ∃ piece, cs = piece ++ rest ∧ (expecting = .value → piece ≠ []) ∧
      Skips expecting stack piece rest := by
  -- one case of the invariant for each thing that a step of the loop can do
  induction fuel generalizing expecting stack cs with
  | zero => exact nomatch h
  | succ fuel ih =>
      cases expecting with
      | value =>
          rw [skipFrom_value] at h
          obtain ⟨⟨found, after⟩, hscalar, hmore⟩ := bind_eq_ok_iff.1 h
          obtain ⟨piece₁, hne, rfl, htakes⟩ := skipScalar_local _ _ _ _ hscalar
          obtain ⟨piece₂, rfl, -, hskips⟩ := ih hmore
          exact ⟨piece₁ ++ piece₂, by simp, by simp [hne], .value hne htakes hskips⟩
      | more afterValue =>
          cases stack with
          | nil =>
              obtain rfl := Except.ok.inj h
              exact ⟨[], rfl, nofun, .done⟩
          | cons bracket stack =>
              cases hskip : skipSpace cs with
              | nil => cases bracket <;> simp [skipFrom, hskip] at h
              | cons c after =>
                  obtain ⟨w, rfl, hw⟩ := skipSpace_eq_cons hskip
                  rw [skipFrom_more hskip] at h
                  split at h
                  next hclose =>
                    obtain ⟨piece, rfl, -, hskips⟩ := ih h
                    exact ⟨w ++ c :: piece, by simp, nofun, .close hw hclose hskips⟩
                  next hclose =>
                    split at h
                    · exact nomatch h
                    next hcomma =>
                      obtain ⟨after', hname, hvalue⟩ := bind_eq_ok_iff.1 h
                      obtain ⟨piece₁, hafter, hread⟩ := skipToValue_takes hname
                      obtain ⟨piece₂, rfl, hne, hskips⟩ := ih hvalue
                      cases afterValue with
                      | true =>
                          obtain rfl : c = ',' := by simpa using hcomma
                          obtain rfl : after = piece₁ ++ (piece₂ ++ rest) := hafter
                          exact ⟨_, by simp, nofun, .comma hw hread hskips⟩
                      | false =>
                          have hafter : c :: after = (piece₁ ++ piece₂) ++ rest := by
                            rw [List.append_assoc]
                            exact hafter
                          cases hpiece : piece₁ ++ piece₂ with
                          | nil => exact absurd (List.append_eq_nil_iff.1 hpiece).2 (hne rfl)
                          | cons d piece =>
                              rw [hpiece] at hafter
                              obtain ⟨rfl, rfl⟩ := List.cons.inj hafter
                              refine ⟨w ++ (piece₁ ++ piece₂), by simp [hpiece], nofun, ?_⟩
                              exact .first hw hclose hpiece hread hskips

/-- **A skipped value is skipped by itself.** -/
theorem skipValue_takes (h : skipValue size cs = .ok rest) :
    ∃ piece, piece ≠ [] ∧ cs = piece ++ rest ∧ ∀ q size', q <+: rest →
      (piece ++ q).length ≤ size' → skipValue size' (piece ++ q) = .ok q := by
  obtain ⟨piece, rfl, hne, hskips⟩ := skipFrom_takes h
  refine ⟨piece, hne rfl, rfl, fun q size' hq hsize => hskips q size' _ hq hsize ?_⟩
  simp only [List.length_append, Expecting.idle] at hsize ⊢
  omega

end ContactBook.Json
