/-
**Reading a word looks no further than the word.**

The readers of JSON text take what they read from the front of the characters that are left, in a
number of steps that is bounded by the length of the whole text.  So a result might hang on what
follows, and on how long the text is.  It does not: a reader that has read a piece of a text reads
the same piece where the text is cut off anywhere behind it, and as many steps as there are
characters are enough for that.  This is `ContactBook.Json.Takes`, and this module proves it of the
words of a text, kept or skipped.

Main definitions:

* `ContactBook.Json.Takes` — a piece of a text is read by itself;
* `ContactBook.Json.Local` — a reader of which everything that it reads is read by itself.

Main results:

* `ContactBook.Json.readNumeral_takes`, `readStringFrom_takes`, `skipString_takes` — numbers and
  strings are read by themselves;
* `ContactBook.Json.opening_takes` — so is the beginning of a value.
-/

import ContactBook.Json.Skipper
import ContactBook.Proofs.List

set_option autoImplicit false

namespace ContactBook.Json

section

variable {α ε : Type}

/-- **A piece of a text is read by itself**: where no more than a beginning of `rest` follows, and
in no more steps than there are characters. -/
def Takes (read : Nat → List Char → Except ε (α × List Char)) (piece : List Char) (a : α)
    (rest : List Char) : Prop :=
  ∀ q size, q <+: rest → (piece ++ q).length ≤ size → read size (piece ++ q) = .ok (a, q)

/-- A reader that always reads something, and everything by itself. -/
def Local (read : Nat → List Char → Except ε (α × List Char)) : Prop :=
  ∀ size cs a rest, read size cs = .ok (a, rest) →
    ∃ piece, piece ≠ [] ∧ cs = piece ++ rest ∧ Takes read piece a rest

/-- What is done with a value after it was read makes no difference. -/
theorem Local.map {β : Type} {read : Nat → List Char → Except ε (α × List Char)} (h : Local read)
    (f : α → β) : Local fun size cs => (read size cs).map fun x => (f x.1, x.2) := by
  intro size cs b rest hb
  obtain ⟨⟨a, rest⟩, ha, heq⟩ := map_eq_ok_iff.1 hb
  obtain ⟨rfl, rfl⟩ := Prod.mk.inj heq
  obtain ⟨piece, hne, rfl, htakes⟩ := h _ _ _ _ ha
  refine ⟨piece, hne, rfl, fun q size' hq hsize => ?_⟩
  simp only [htakes q size' hq hsize, Except.map]

/-- The first character of a text is that of the piece that is read from it. -/
theorem exists_tail_of_cons_eq_append {c : Char} {cs piece rest : List Char}
    (h : c :: cs = piece ++ rest) (hne : piece ≠ []) :
    ∃ tail, piece = c :: tail ∧ cs = tail ++ rest := by
  cases piece with
  | nil => exact absurd rfl hne
  | cons d tail =>
      obtain ⟨rfl, rfl⟩ := List.cons.inj h
      exact ⟨tail, rfl, rfl⟩

/-- A bracket, a colon or a comma may stand before what is cut off. -/
theorem append_cons_begins {q rest : List Char} (h : q <+: rest) (w : List Char) (c : Char) :
    w ++ c :: q <+: w ++ c :: rest :=
  (List.prefix_append_right_inj w).2 (List.cons_prefix_cons.2 ⟨rfl, h⟩)

/-- What is read behind the spaces `w` and the character `c` is read together with them. -/
theorem takes_behind {P : Nat → List Char → List Char → Prop} {w cs rest : List Char} {c : Char}
    (h : ∃ piece, cs = piece ++ rest ∧ ∀ q size, q <+: rest → (piece ++ q).length ≤ size →
      P size (w ++ c :: (piece ++ q)) q) :
    ∃ piece, piece ≠ [] ∧ w ++ c :: cs = piece ++ rest ∧
      ∀ q size, q <+: rest → (piece ++ q).length ≤ size → P size (piece ++ q) q := by
  obtain ⟨piece, rfl, hread⟩ := h
  refine ⟨w ++ c :: piece, by simp, by simp, fun q size hq hsize => ?_⟩
  rw [List.append_assoc, List.cons_append]
  refine hread q size hq ?_
  simp only [List.length_append, List.length_cons] at hsize ⊢
  omega

end

/-! ### Spaces and letters -/

section

variable {cs rest q : List Char} {c : Char}

/-- The characters at the front that pass a test, where a beginning of the others follows. -/
theorem span_append_of_prefix {p : Char → Bool} (h : q <+: cs.dropWhile p) :
    (cs.takeWhile p ++ q).takeWhile p = cs.takeWhile p ∧ (cs.takeWhile p ++ q).dropWhile p = q := by
  induction cs with
  | nil =>
      obtain rfl : q = [] := List.prefix_nil.1 h
      exact ⟨rfl, rfl⟩
  | cons c cs ih =>
      cases hc : p c with
      | true =>
          rw [List.dropWhile_cons_of_pos hc] at h
          simpa [hc] using ih h
      | false =>
          rw [List.dropWhile_cons_of_neg (by simp [hc])] at h
          cases q with
          | nil => simp [hc]
          | cons d q =>
              obtain ⟨rfl, -⟩ := List.cons_prefix_cons.1 h
              simp [hc]

/-- The spaces before the next word may be followed by whatever begins as that word. -/
theorem skipSpace_eq_cons (h : skipSpace cs = c :: rest) :
    ∃ w, cs = w ++ c :: rest ∧ ∀ q, skipSpace (w ++ c :: q) = c :: q := by
  induction cs with
  | nil => exact nomatch h
  | cons d cs ih =>
      cases hd : isSpace d with
      | true =>
          rw [skipSpace, List.dropWhile_cons_of_pos hd] at h
          obtain ⟨w, rfl, hw⟩ := ih h
          refine ⟨d :: w, rfl, fun q => ?_⟩
          rw [skipSpace, List.cons_append, List.dropWhile_cons_of_pos hd]
          exact hw q
      | false =>
          have hd' : ¬isSpace d = true := by simp [hd]
          rw [skipSpace, List.dropWhile_cons_of_neg hd'] at h
          obtain ⟨rfl, rfl⟩ := List.cons.inj h
          exact ⟨[], rfl, fun q => List.dropWhile_cons_of_neg hd'⟩

theorem readWord_eq_ok {ws : List Char} (h : readWord ws cs = .ok rest) :
    cs = ws ++ rest ∧ ∀ q, readWord ws (ws ++ q) = .ok q := by
  induction ws generalizing cs with
  | nil => exact ⟨Except.ok.inj h, fun _ => rfl⟩
  | cons w ws ih =>
      cases cs with
      | nil => exact nomatch h
      | cons c cs =>
          rw [readWord] at h
          split at h
          next hc =>
            obtain ⟨rfl, hws⟩ := ih h
            obtain rfl := beq_iff_eq.1 hc
            exact ⟨rfl, fun q => by simp [readWord, hws]⟩
          · exact nomatch h

end

/-! ### Numbers -/

section

variable {cs rest : List Char} {unfinished : SyntaxFault}

theorem readDigits_takes {digits : List Char} (h : readDigits unfinished cs = .ok (digits, rest)) :
    digits ≠ [] ∧ cs = digits ++ rest ∧
      Takes (fun _ => readDigits unfinished) digits digits rest := by
  cases cs with
  | nil => exact nomatch h
  | cons c cs =>
      rw [readDigits] at h
      split at h
      next hc =>
        obtain ⟨rfl, rfl⟩ := Prod.mk.inj (Except.ok.inj h)
        refine ⟨by simp [hc], (List.takeWhile_append_dropWhile ..).symm, ?_⟩
        intro q _ hq _
        obtain ⟨htake, hdrop⟩ := span_append_of_prefix hq
        have hcons : (c :: cs).takeWhile Char.isDigit ++ q =
            c :: (cs.takeWhile Char.isDigit ++ q) := by simp [hc]
        rw [hcons] at htake hdrop ⊢
        simp only [readDigits, hc, if_true, htake, hdrop]
      · exact nomatch h

theorem readWhole_takes {digits : List Char} (h : readWhole unfinished cs = .ok (digits, rest)) :
    digits ≠ [] ∧ cs = digits ++ rest ∧
      Takes (fun _ => readWhole unfinished) digits digits rest := by
  unfold readWhole at h
  split at h
  next c cs =>
    -- a zero that something follows stands alone
    split at h
    · exact nomatch h
    next hc =>
      obtain ⟨rfl, rfl⟩ := Prod.mk.inj (Except.ok.inj h)
      refine ⟨List.cons_ne_nil _ _, rfl, ?_⟩
      intro q _ hq _
      cases q with
      | nil => rfl
      | cons d q =>
          obtain ⟨rfl, -⟩ := List.cons_prefix_cons.1 hq
          simp [readWhole, hc]
  next hlone =>
    obtain ⟨hne, rfl, htakes⟩ := readDigits_takes h
    refine ⟨hne, rfl, ?_⟩
    intro q size hq hsize
    have hread := htakes q size hq hsize
    -- a beginning of `rest` makes no zero stand alone that did not before
    obtain ⟨r, rfl⟩ := hq
    change readWhole unfinished (digits ++ q) = _
    unfold readWhole
    split
    next c tail heq =>
      refine (hlone c (tail ++ r) ?_).elim
      rw [← List.append_assoc, heq, List.cons_append, List.cons_append]
    · exact hread

theorem readFraction_takes {digits : List Char}
    (h : readFraction unfinished cs = .ok (digits, rest)) :
    ∃ piece, cs = piece ++ rest ∧ Takes (fun _ => readFraction unfinished) piece digits rest := by
  unfold readFraction at h
  split at h
  next cs =>
    obtain ⟨-, rfl, htakes⟩ := readDigits_takes h
    refine ⟨'.' :: digits, rfl, ?_⟩
    intro q size hq hsize
    exact htakes q size hq (Nat.le_of_succ_le hsize)
  next hpoint =>
    -- without a point nothing is read, and no beginning of `rest` has one at its front
    obtain ⟨rfl, rfl⟩ := Prod.mk.inj (Except.ok.inj h)
    refine ⟨[], rfl, ?_⟩
    intro q size hq _
    obtain ⟨r, rfl⟩ := hq
    change readFraction unfinished q = _
    cases q with
    | nil => rfl
    | cons d q =>
        have hd : d ≠ '.' := by
          rintro rfl
          exact hpoint (q ++ r) rfl
        simp [readFraction, hd]

/-- A sign comes before the digits of an exponent. -/
theorem readExponent_signed {c sign : Char} (hc : (c == 'e' || c == 'E') = true)
    (hs : sign = '+' ∨ sign = '-') (cs : List Char) :
    readExponent unfinished (c :: sign :: cs) =
      (readDigits unfinished cs).map fun x => (some ⟨sign == '-', x.1⟩, x.2) := by
  rcases hs with rfl | rfl <;> simp only [readExponent, hc, if_true] <;> rfl

theorem readExponent_unsigned {c d : Char} (hc : (c == 'e' || c == 'E') = true)
    (hd : ¬(d = '+' ∨ d = '-')) (cs : List Char) :
    readExponent unfinished (c :: d :: cs) =
      (readDigits unfinished (d :: cs)).map fun x => (some ⟨false, x.1⟩, x.2) := by
  obtain ⟨hplus, hminus⟩ := not_or.1 hd
  simp [readExponent, hc, hplus, hminus]

theorem readExponent_takes {exponent : Option Exponent}
    (h : readExponent unfinished cs = .ok (exponent, rest)) :
    ∃ piece, cs = piece ++ rest ∧ Takes (fun _ => readExponent unfinished) piece exponent rest := by
  have hnone : ∀ c, ¬(c == 'e' || c == 'E') = true → ∀ cs,
      readExponent unfinished (c :: cs) = .ok (none, c :: cs) := by
    intro c hc cs
    simp [readExponent, hc]
  cases cs with
  | nil =>
      obtain ⟨rfl, rfl⟩ := Prod.mk.inj (Except.ok.inj h)
      refine ⟨[], rfl, fun q _ hq _ => ?_⟩
      obtain rfl : q = [] := List.prefix_nil.1 hq
      rfl
  | cons c cs =>
      by_cases hc : (c == 'e' || c == 'E') = true
      · -- a sign may stand before the digits
        cases cs with
        | nil => simp [readExponent, hc, readDigits, Except.map] at h
        | cons d cs =>
            by_cases hd : d = '+' ∨ d = '-'
            · rw [readExponent_signed hc hd, map_eq_ok_iff] at h
              obtain ⟨⟨digits, rest⟩, hdigits, heq⟩ := h
              obtain ⟨rfl, rfl⟩ := Prod.mk.inj heq
              obtain ⟨-, rfl, htakes⟩ := readDigits_takes hdigits
              refine ⟨c :: d :: digits, rfl, fun q _ hq _ => ?_⟩
              have := htakes q _ hq (Nat.le_refl _)
              simp only [List.cons_append, readExponent_signed hc hd, this, Except.map]
            · rw [readExponent_unsigned hc hd, map_eq_ok_iff] at h
              obtain ⟨⟨digits, rest⟩, hdigits, heq⟩ := h
              obtain ⟨rfl, rfl⟩ := Prod.mk.inj heq
              obtain ⟨hne, hcs, htakes⟩ := readDigits_takes hdigits
              obtain ⟨tail, rfl, rfl⟩ := exists_tail_of_cons_eq_append hcs hne
              refine ⟨c :: d :: tail, rfl, fun q _ hq _ => ?_⟩
              have := htakes q _ hq (Nat.le_refl _)
              simp only [List.cons_append] at this ⊢
              simp only [readExponent_unsigned hc hd, this, Except.map]
      · rw [hnone c hc] at h
        obtain ⟨rfl, rfl⟩ := Prod.mk.inj (Except.ok.inj h)
        refine ⟨[], rfl, fun q _ hq _ => ?_⟩
        cases q with
        | nil => rfl
        | cons d q =>
            obtain ⟨rfl, -⟩ := List.cons_prefix_cons.1 hq
            exact hnone d hc q

/-- A numeral is read by itself. -/
theorem readNumeral_takes {x : Numeral} (h : readNumeral unfinished cs = .ok (x, rest)) :
    ∃ piece, piece ≠ [] ∧ cs = piece ++ rest ∧
      Takes (fun _ => readNumeral unfinished) piece x rest := by
  unfold readNumeral at h
  obtain ⟨⟨whole, cs₁⟩, h₁, h⟩ := bind_eq_ok_iff.1 h
  obtain ⟨⟨fraction, cs₂⟩, h₂, h⟩ := bind_eq_ok_iff.1 h
  obtain ⟨⟨exponent, cs₃⟩, h₃, h⟩ := bind_eq_ok_iff.1 h
  obtain ⟨rfl, rfl⟩ := Prod.mk.inj (Except.ok.inj h)
  obtain ⟨hne, rfl, hwhole⟩ := readWhole_takes h₁
  obtain ⟨piece₂, rfl, hfraction⟩ := readFraction_takes h₂
  obtain ⟨piece₃, rfl, hexponent⟩ := readExponent_takes h₃
  refine ⟨whole ++ (piece₂ ++ piece₃), by simp [hne], by simp, fun q _ hq _ => ?_⟩
  have hq₂ : piece₃ ++ q <+: piece₃ ++ cs₃ := (List.prefix_append_right_inj _).2 hq
  have hq₁ : piece₂ ++ (piece₃ ++ q) <+: piece₂ ++ (piece₃ ++ cs₃) :=
    (List.prefix_append_right_inj _).2 hq₂
  have h₁ := hwhole _ _ hq₁ (Nat.le_refl _)
  have h₂ := hfraction _ _ hq₂ (Nat.le_refl _)
  have h₃ := hexponent _ _ hq (Nat.le_refl _)
  simp only [List.append_assoc, readNumeral, h₁, h₂, h₃, bind, Except.bind, pure, Except.pure]

theorem readNumber_takes {negative : Bool} {n : Number}
    (h : readNumber negative cs = .ok (n, rest)) :
    ∃ piece, piece ≠ [] ∧ cs = piece ++ rest ∧
      Takes (fun _ => readNumber negative) piece n rest := by
  unfold readNumber at h
  obtain ⟨⟨x, cs₁⟩, hx, hvalue⟩ := bind_eq_ok_iff.1 h
  obtain ⟨piece, hne, rfl, htakes⟩ := readNumeral_takes hx
  simp only at hvalue
  split at hvalue
  next m hm =>
    obtain ⟨rfl, rfl⟩ := Prod.mk.inj (Except.ok.inj hvalue)
    refine ⟨piece, hne, rfl, fun q size hq hsize => ?_⟩
    have hread := htakes q size hq hsize
    simp only at hread
    simp only [readNumber, hread, hm, bind, Except.bind, pure, Except.pure]
  · exact nomatch hvalue

end

/-! ### Strings -/

section

variable {cs rest : List Char}

theorem readHex_eq_ok {n : Nat} (h : readHex cs = .ok (n, rest)) :
    ∃ piece, piece ≠ [] ∧ cs = piece ++ rest ∧ ∀ q, readHex (piece ++ q) = .ok (n, q) := by
  unfold readHex at h
  split at h
  next a b c d cs =>
    split at h
    next ha hb hc hd =>
      obtain ⟨rfl, rfl⟩ := Prod.mk.inj (Except.ok.inj h)
      refine ⟨[a, b, c, d], List.cons_ne_nil _ _, rfl, fun q => ?_⟩
      simp only [List.cons_append, List.nil_append, readHex, ha, hb, hc, hd]
    · exact nomatch h
  · split at h <;> exact nomatch h

theorem readLowSurrogate_eq_ok {high : Nat} {c : Char}
    (h : readLowSurrogate high cs = .ok (c, rest)) :
    ∃ piece, cs = piece ++ rest ∧ ∀ q, readLowSurrogate high (piece ++ q) = .ok (c, q) := by
  unfold readLowSurrogate at h
  split at h
  · exact nomatch h
  · split at h
    · exact nomatch h
    next cs =>
      obtain ⟨⟨low, cs₁⟩, hlow, hpair⟩ := bind_eq_ok_iff.1 h
      obtain ⟨piece, -, rfl, hread⟩ := readHex_eq_ok hlow
      simp only at hpair
      split at hpair
      next hrange =>
        obtain ⟨rfl, rfl⟩ := Prod.mk.inj (Except.ok.inj hpair)
        refine ⟨'\\' :: 'u' :: piece, rfl, fun q => ?_⟩
        simp only [List.cons_append, readLowSurrogate, hread, hrange, if_true, bind, Except.bind,
          pure, Except.pure]
      · exact nomatch hpair
    · exact nomatch h
  · exact nomatch h

/-- An escaped character is read by itself. -/
theorem readEscape_eq_ok {c : Char} (h : readEscape cs = .ok (c, rest)) :
    ∃ piece, piece ≠ [] ∧ cs = piece ++ rest ∧ ∀ q, readEscape (piece ++ q) = .ok (c, q) := by
  unfold readEscape at h
  split at h
  · exact nomatch h
  next d cs =>
    split at h
    next hu =>
      obtain ⟨⟨n, cs₁⟩, hn, hafter⟩ := bind_eq_ok_iff.1 h
      obtain ⟨piece, -, rfl, hread⟩ := readHex_eq_ok hn
      simp only at hafter
      split at hafter
      · exact nomatch hafter
      next hlow =>
        split at hafter
        next hhigh =>
          obtain ⟨piece₂, rfl, hread₂⟩ := readLowSurrogate_eq_ok hafter
          refine ⟨d :: (piece ++ piece₂), List.cons_ne_nil _ _, by simp, fun q => ?_⟩
          simp [readEscape, hu, hread, hlow, hhigh, hread₂, bind, Except.bind]
        next hhigh =>
          obtain ⟨rfl, rfl⟩ := Prod.mk.inj (Except.ok.inj hafter)
          refine ⟨d :: piece, List.cons_ne_nil _ _, rfl, fun q => ?_⟩
          simp [readEscape, hu, hread, hlow, hhigh, bind, Except.bind, pure, Except.pure]
    next hu =>
      split at h
      next e he =>
        obtain ⟨rfl, rfl⟩ := Prod.mk.inj (Except.ok.inj h)
        refine ⟨[d], List.cons_ne_nil _ _, rfl, fun q => ?_⟩
        simp [readEscape, hu, he]
      · exact nomatch h

/-- What is read of a string is read in as many steps as it has characters. -/
theorem readStringFrom_takes {size : Nat} {acc text : List Char}
    (h : readStringFrom size acc cs = .ok (text, rest)) :
    ∃ piece, piece ≠ [] ∧ cs = piece ++ rest ∧ ∀ q size', piece.length ≤ size' →
      readStringFrom size' acc (piece ++ q) = .ok (text, q) := by
  induction size generalizing acc cs with
  | zero => exact nomatch h
  | succ size ih =>
      cases cs with
      | nil => exact nomatch h
      | cons c cs =>
          rw [readStringFrom] at h
          split at h
          next hquote =>
            obtain ⟨rfl, rfl⟩ := Prod.mk.inj (Except.ok.inj h)
            refine ⟨[c], List.cons_ne_nil _ _, rfl, ?_⟩
            rintro q (_ | size') hsize
            · simp at hsize
            · simp [readStringFrom, hquote]
          next hquote =>
            split at h
            next hslash =>
              split at h
              next d cs₁ hd =>
                obtain ⟨piece, -, rfl, hread⟩ := readEscape_eq_ok hd
                obtain ⟨piece₂, -, rfl, hread₂⟩ := ih h
                refine ⟨c :: (piece ++ piece₂), List.cons_ne_nil _ _, by simp, ?_⟩
                rintro q (_ | size') hsize
                · simp at hsize
                · have := hread₂ q size' (by simp at hsize; omega)
                  simp [readStringFrom, hquote, hslash, hread, this]
              · exact nomatch h
            next hslash =>
              split at h
              · exact nomatch h
              next hcontrol =>
                obtain ⟨piece, -, rfl, hread⟩ := ih h
                refine ⟨c :: piece, List.cons_ne_nil _ _, rfl, ?_⟩
                rintro q (_ | size') hsize
                · simp at hsize
                · have := hread q size' (by simpa using hsize)
                  simp [readStringFrom, hquote, hslash, hcontrol, this]

theorem readString_local : Local readString := by
  have hchars : Local fun size => readStringFrom (size + 1) [] := by
    intro size cs chars rest h
    obtain ⟨piece, hne, rfl, hread⟩ := readStringFrom_takes h
    refine ⟨piece, hne, rfl, fun q size' _ hsize => ?_⟩
    rw [List.length_append] at hsize
    exact hread q (size' + 1) (by omega)
  exact hchars.map String.ofList

theorem skipString_takes {size : Nat} (h : skipString size cs = .ok rest) :
    ∃ piece, piece ≠ [] ∧ cs = piece ++ rest ∧ ∀ q size', piece.length ≤ size' →
      skipString size' (piece ++ q) = .ok q := by
  induction size generalizing cs with
  | zero => exact nomatch h
  | succ size ih =>
      cases cs with
      | nil => exact nomatch h
      | cons c cs =>
          unfold skipString at h
          split at h
          next hquote =>
            obtain rfl := Except.ok.inj h
            refine ⟨[c], List.cons_ne_nil _ _, rfl, ?_⟩
            rintro q (_ | size') hsize
            · simp at hsize
            · simp [skipString, hquote]
          next hquote =>
            split at h
            next hslash =>
              split at h
              · exact nomatch h
              next d cs =>
                split at h
                next hu =>
                  split at h
                  next n cs₁ hn =>
                    obtain ⟨piece, -, rfl, hread⟩ := readHex_eq_ok hn
                    obtain ⟨piece₂, -, rfl, hread₂⟩ := ih h
                    refine ⟨c :: d :: (piece ++ piece₂), List.cons_ne_nil _ _, by simp, ?_⟩
                    rintro q (_ | size') hsize
                    · simp at hsize
                    · have := hread₂ q size' (by simp at hsize; omega)
                      simp [skipString, hquote, hslash, hu, hread, this]
                  · exact nomatch h
                next hu =>
                  split at h
                  next hshort =>
                    obtain ⟨piece, -, rfl, hread⟩ := ih h
                    refine ⟨c :: d :: piece, List.cons_ne_nil _ _, rfl, ?_⟩
                    rintro q (_ | size') hsize
                    · simp at hsize
                    · have := hread q size' (by simp at hsize; omega)
                      simp [skipString, hquote, hslash, hu, hshort, this]
                  · exact nomatch h
            next hslash =>
              split at h
              · exact nomatch h
              next hcontrol =>
                obtain ⟨piece, -, rfl, hread⟩ := ih h
                refine ⟨c :: piece, List.cons_ne_nil _ _, rfl, ?_⟩
                rintro q (_ | size') hsize
                · simp at hsize
                · have := hread q size' (by simpa using hsize)
                  simp [skipString, hquote, hslash, hcontrol, this]

end

/-! ### How a value begins -/

/-- What follows the beginning of a value. -/
def Opening.rest : Opening → List Char
  | .scalar _ rest | .list rest | .object rest => rest

/-- The same beginning where `q` follows. -/
def Opening.before (q : List Char) : Opening → Opening
  | .scalar v _ => .scalar v q
  | .list _ => .list q
  | .object _ => .object q

/-- A word that stands for something is read by itself. -/
theorem word_takes {β : Type} {f : List Char → β} {ws cs : List Char} {b : β}
    (h : (readWord ws cs).map f = .ok b) :
    ∃ rest, cs = ws ++ rest ∧ f rest = b ∧ ∀ q, (readWord ws (ws ++ q)).map f = .ok (f q) := by
  obtain ⟨rest, hword, rfl⟩ := map_eq_ok_iff.1 h
  obtain ⟨rfl, hread⟩ := readWord_eq_ok hword
  exact ⟨rest, rfl, rfl, fun q => by rw [hread]; rfl⟩

/-- So is a number that is kept. -/
theorem number_takes {negative : Bool} {cs : List Char} {o : Opening}
    (h : (readNumber negative cs).map (fun x => Opening.scalar (.number x.1) x.2) = .ok o) :
    ∃ piece, piece ≠ [] ∧ cs = piece ++ o.rest ∧ ∀ q, q <+: o.rest →
      (readNumber negative (piece ++ q)).map (fun x => Opening.scalar (.number x.1) x.2) =
        .ok (o.before q) := by
  obtain ⟨⟨n, rest⟩, hnumber, rfl⟩ := map_eq_ok_iff.1 h
  obtain ⟨piece, hne, rfl, htakes⟩ := readNumber_takes hnumber
  refine ⟨piece, hne, rfl, fun q hq => ?_⟩
  have hread := htakes q _ hq (Nat.le_refl _)
  simp only at hread
  rw [hread]
  rfl

/-- **The beginning of a value is read by itself.** -/
theorem opening_takes {size : Nat} {cs : List Char} {o : Opening} (h : opening size cs = .ok o) :
    ∃ piece, piece ≠ [] ∧ cs = piece ++ o.rest ∧ ∀ q size', q <+: o.rest →
      (piece ++ q).length ≤ size' → opening size' (piece ++ q) = .ok (o.before q) := by
  unfold opening at h
  split at h
  · exact nomatch h
  next c rest hskip =>
    obtain ⟨w, rfl, hw⟩ := skipSpace_eq_cons hskip
    refine takes_behind (P := fun size cs q => opening size cs = .ok (o.before q)) ?_
    -- the first character decides what is read after it
    simp only [opening, hw]
    split_ifs at h
    all_goals simp only [*, Bool.false_eq_true, if_true, if_false]
    · obtain ⟨rest, rfl, rfl, hread⟩ := word_takes h
      exact ⟨_, rfl, fun q _ _ _ => hread q⟩
    · obtain ⟨rest, rfl, rfl, hread⟩ := word_takes h
      exact ⟨_, rfl, fun q _ _ _ => hread q⟩
    · obtain ⟨rest, rfl, rfl, hread⟩ := word_takes h
      exact ⟨_, rfl, fun q _ _ _ => hread q⟩
    · obtain ⟨piece, -, rfl, hread⟩ := number_takes h
      exact ⟨piece, rfl, fun q _ hq _ => hread q hq⟩
    · -- the digit that tells that this is a number is a part of it
      obtain ⟨piece, hne, hrest, hread⟩ := number_takes h
      obtain ⟨tail, rfl, rfl⟩ := exists_tail_of_cons_eq_append hrest hne
      exact ⟨tail, rfl, fun q _ hq _ => hread q hq⟩
    · obtain ⟨⟨text, rest⟩, htext, rfl⟩ := map_eq_ok_iff.1 h
      obtain ⟨piece, -, rfl, htakes⟩ := readString_local _ _ _ _ htext
      exact ⟨piece, rfl, fun q size' hq hsize => by rw [htakes q size' hq hsize]; rfl⟩
    · obtain rfl := Except.ok.inj h
      exact ⟨[], rfl, fun _ _ _ _ => rfl⟩
    · obtain rfl := Except.ok.inj h
      exact ⟨[], rfl, fun _ _ _ _ => rfl⟩

end ContactBook.Json
