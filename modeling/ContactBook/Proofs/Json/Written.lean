/-
**What spells a JSON value is read as that value.**

The reader takes one step for each character of a string, however it is spelled, and one for each
item and each member; so the number of characters of the text is enough steps.  A number ends where
something else begins, and everything else ends with its last character.  Spaces between the words
are skipped.  Objects are read with ascending members, so a text is read as the normal form of the
value that it spells; and what is printed for a value in normal form is read as the value itself.

Numbers are whole here, and fit 64 bits with or without a sign.

Main definitions:

* `ContactBook.Json.Ends` — where a number can end;
* `ContactBook.Json.Value.isWhole` — whether all numbers in a value are whole and fit 64 bits;
* `ContactBook.Json.Value.IsReadAs` — a reader makes something of every text of a value.

Main results:

* `ContactBook.Json.readString_spelled` — **strings are read as they were meant**;
* `ContactBook.Json.readNumeral_natural`, `number?_natural` — so are whole numbers;
* `ContactBook.Json.readItems_spelled`, `readMembers_spelled` — so are the items of a list and the
  members of an object;
* `ContactBook.Json.parse_spelled` — **a text is read as the normal form of the value it spells**;
* `ContactBook.Json.parse_render` — **what is printed is read back**;
* `ContactBook.Json.decode_list_string` — a list of strings is read back as it was.
-/

import ContactBook.Json.Decoder
import ContactBook.Proofs.Decimal.Natural
import ContactBook.Proofs.Json.Spelling
import ContactBook.Proofs.List

set_option autoImplicit false

namespace ContactBook.Json

open ContactBook.Decimal

/-! ### Spaces -/

theorem skipSpace_append {space : List Char} (h : Spaces space) (cs : List Char) :
    skipSpace (space ++ cs) = skipSpace cs :=
  List.dropWhile_append_of_pos h

theorem skipSpace_cons {c : Char} (h : isSpace c = false) (cs : List Char) :
    skipSpace (c :: cs) = c :: cs := by
  simp [skipSpace, h]

/-! ### Strings -/

theorem hexValue?_of_spellsHex {n : Nat} {c : Char} (h : SpellsHex n c) : hexValue? c = some n := by
  have hdigits : ∀ k : Fin 16, hexValue? (hexDigit k) = some k.val ∧
      hexValue? (hexDigit k).toUpper = some k.val := by decide
  obtain ⟨hn, rfl | rfl⟩ := h
  · exact (hdigits ⟨n, hn⟩).1
  · exact (hdigits ⟨n, hn⟩).2

theorem readHex_spelled {n : Nat} {text : List Char} (h : SpellsUnit n text) (rest : List Char) :
    readHex (text ++ rest) = .ok (n, rest) := by
  cases h with
  | digits ha hb hc hd =>
      simp [readHex, hexValue?_of_spellsHex ha, hexValue?_of_spellsHex hb,
        hexValue?_of_spellsHex hc, hexValue?_of_spellsHex hd]

/-- No character has the number of half a pair. -/
theorem not_isSurrogate_toNat (c : Char) :
    isLowSurrogate c.toNat = false ∧ isHighSurrogate c.toNat = false := by
  have hvalid : c.toNat < 0xD800 ∨ 0xDFFF < c.toNat ∧ c.toNat < 0x110000 := c.valid
  simp only [isLowSurrogate, isHighSurrogate, Bool.and_eq_false_iff, decide_eq_false_iff_not]
  omega

/-- **However it is spelled, a character is read in one step.** -/
theorem readStringFrom_spelled {c : Char} {text : List Char} (h : SpellsChar c text) (size : Nat)
    (acc rest : List Char) :
    readStringFrom (size + 1) acc (text ++ rest) = readStringFrom size (c :: acc) rest := by
  cases h with
  | plain hquote hbackslash hvisible =>
      simp [readStringFrom, hquote, hbackslash, Nat.not_lt.2 hvisible]
  | @short letter hmem =>
      have htable : ∀ e ∈ shortEscapes, e.1 ≠ 'u' ∧ shortEscape? e.1 = some e.2 := by decide
      obtain ⟨hu, hletter⟩ := htable _ hmem
      simp [readStringFrom, readEscape, hu, hletter]
  | unit hunit =>
      obtain ⟨hlow, hhigh⟩ := not_isSurrogate_toNat c
      simp [readStringFrom, readEscape, readHex_spelled hunit, bind, Except.bind, hlow, hhigh, pure,
        Except.pure]
  | @pair high low text text' hh hl hc hunit hunit' =>
      have hhigh : isHighSurrogate (0xD800 + high) = true := by
        simp only [isHighSurrogate, Bool.and_eq_true, decide_eq_true_eq]
        omega
      have hnotLow : isLowSurrogate (0xD800 + high) = false := by
        simp only [isLowSurrogate, Bool.and_eq_false_iff, decide_eq_false_iff_not]
        omega
      have hlow : isLowSurrogate (0xDC00 + low) = true := by
        simp only [isLowSurrogate, Bool.and_eq_true, decide_eq_true_eq]
        omega
      have hback : (0xD800 + high - 0xD800) * 0x400 + (0xDC00 + low - 0xDC00) + 0x10000 =
          c.toNat := by omega
      have hescape :
          readEscape ('u' :: (text ++ '\\' :: 'u' :: (text' ++ rest))) = .ok (c, rest) := by
        simp only [readEscape, readHex_spelled hunit, bind, Except.bind, hnotLow, hhigh,
          readLowSurrogate, readHex_spelled hunit', hlow, hback, Char.ofNat_toNat, pure,
          Except.pure]
        rfl
      simp [readStringFrom, hescape]

theorem readStringFrom_pieces {cs : List Char} {pieces : List (List Char)}
    (h : List.Forall₂ SpellsChar cs pieces) (size : Nat) (acc rest : List Char) :
    readStringFrom (cs.length + size) acc (pieces.flatten ++ rest) =
      readStringFrom size (cs.reverse ++ acc) rest := by
  induction h generalizing acc with
  | nil => simp
  | @cons c piece cs pieces hc _ ih =>
      have hsteps : (c :: cs).length + size = cs.length + size + 1 := by simp; omega
      rw [hsteps, List.flatten_cons, List.append_assoc, readStringFrom_spelled hc, ih]
      simp

/-- A string has no more characters than each of its texts. -/
theorem length_le_of_spellsString {cs text : List Char} (h : SpellsString cs text) :
    cs.length ≤ text.length := by
  obtain ⟨pieces, hpieces, rfl⟩ := h
  have hflat : cs.length ≤ pieces.flatten.length := by
    induction hpieces with
    | nil => exact Nat.le_refl 0
    | @cons c piece cs pieces hc _ ih =>
        have hpos : 0 < piece.length := by cases hc <;> simp
        rw [List.flatten_cons, List.length_append, List.length_cons]
        omega
  simp only [List.length_cons, List.length_append]
  omega

/-- **A string is read as it was meant**, from behind its opening quote to its closing quote. -/
theorem readString_spelled {cs text : List Char} (h : SpellsString cs text) {size : Nat}
    (hsize : text.length ≤ size) :
    ∃ tail, text = '"' :: tail ∧
      ∀ rest, readString size (tail ++ rest) = .ok (String.ofList cs, rest) := by
  obtain ⟨more, rfl⟩ := Nat.exists_eq_add_of_le (Nat.le_trans (length_le_of_spellsString h) hsize)
  obtain ⟨pieces, hpieces, rfl⟩ := h
  refine ⟨_, rfl, fun rest => ?_⟩
  have hend : readStringFrom (more + 1) (cs.reverse ++ []) ('"' :: rest) = .ok (cs, rest) := by
    simp [readStringFrom]
  rw [readString, Nat.add_assoc, List.append_assoc, readStringFrom_pieces hpieces,
    List.singleton_append, hend]
  rfl

/-! ### Whole numbers -/

/-- Whether a number that stands before a text ends where the text begins. -/
def Ends (rest : List Char) : Prop :=
  ∀ c ∈ rest.head?, c.isDigit = false ∧ c ≠ '.' ∧ c ≠ 'e' ∧ c ≠ 'E'

theorem ends_nil : Ends [] := fun _ hc => nomatch hc

theorem ends_cons {c : Char} {rest : List Char}
    (h : c.isDigit = false ∧ c ≠ '.' ∧ c ≠ 'e' ∧ c ≠ 'E') : Ends (c :: rest) := by
  intro d hd
  obtain rfl : c = d := Option.some.inj hd
  exact h

/-- A number ends before a space. -/
theorem Ends.spaces {space rest : List Char} (hspace : Spaces space) (h : Ends rest) :
    Ends (space ++ rest) := by
  cases space with
  | nil => exact h
  | cons c space =>
      have hc := hspace c List.mem_cons_self
      simp only [isSpace, Bool.or_eq_true, beq_iff_eq] at hc
      rcases hc with ((rfl | rfl) | rfl) | rfl <;> exact ends_cons (by decide)

theorem Ends.stops {rest : List Char} (h : Ends rest) : Stops rest := fun c hc => (h c hc).1

/-- **A whole number is read up to its end.** -/
theorem readNumeral_natural (unfinished : SyntaxFault) (n : Nat) {rest : List Char}
    (hrest : Ends rest) :
    readNumeral unfinished ((Nat.repr n).toList ++ rest) =
      .ok (⟨(Nat.repr n).toList, [], none⟩, rest) := by
  have hd : ∀ c ∈ (Nat.repr n).toList, c.isDigit = true := fun _ => isDigit_of_mem_repr
  obtain ⟨d, ds, hdigits, hdigit⟩ := exists_cons_padded 0 n
  rw [padded_zero] at hdigits
  have hread : readDigits unfinished ((Nat.repr n).toList ++ rest) =
      .ok ((Nat.repr n).toList, rest) := by
    have htake := takeWhile_isDigit_append hd hrest.stops
    have hdrop := dropWhile_isDigit_append hd hrest.stops
    rw [hdigits] at htake hdrop ⊢
    simp only [List.cons_append] at htake hdrop ⊢
    rw [readDigits, if_pos hdigit, htake, hdrop]
  -- a zero in front is the whole number
  have hwhole : readWhole unfinished ((Nat.repr n).toList ++ rest) =
      .ok ((Nat.repr n).toList, rest) := by
    unfold readWhole
    split
    next c more htext =>
      rw [hdigits, List.cons_append] at htext
      obtain ⟨rfl, htail⟩ := List.cons.inj htext
      obtain rfl := tail_eq_nil_of_repr_eq hdigits
      obtain rfl : rest = c :: more := htail
      rw [(hrest c rfl).1, if_neg Bool.false_ne_true, hdigits]
    next => exact hread
  have hfraction : readFraction unfinished rest = .ok ([], rest) := by
    unfold readFraction
    split
    next more => exact absurd rfl (hrest '.' rfl).2.1
    next => rfl
  have hexponent : readExponent unfinished rest = .ok (none, rest) := by
    unfold readExponent
    split
    next c more =>
      obtain ⟨-, -, he, hE⟩ := hrest c rfl
      simp [he, hE]
    next => rfl
  simp only [readNumeral, hwhole, hfraction, hexponent, bind, Except.bind, pure, Except.pure]

/-- Digits do not make a number less. -/
theorem le_foldl_digits (n : Nat) (cs : List Char) :
    n ≤ cs.foldl (fun n c => n * 10 + digitValue c) n := by
  induction cs generalizing n with
  | nil => exact Nat.le_refl n
  | cons c cs ih =>
      have hstep := ih (n * 10 + digitValue c)
      rw [List.foldl_cons]
      omega

/-- Digits of a number that fits 64 bits are all taken. -/
theorem absorb_of_lt {n : Nat} {cs : List Char}
    (h : cs.foldl (fun n c => n * 10 + digitValue c) n < Nat.pow 2 64) :
    absorb n cs = (cs.foldl (fun n c => n * 10 + digitValue c) n, []) := by
  induction cs generalizing n with
  | nil => rfl
  | cons c cs ih =>
      rw [List.foldl_cons] at h ⊢
      have hfits := Nat.lt_of_le_of_lt (le_foldl_digits _ cs) h
      rw [absorb, if_pos hfits, ih h]

theorem natural?_repr {n : Nat} (h : n < Nat.pow 2 64) :
    (Numeral.mk (Nat.repr n).toList [] none).natural? = some n := by
  have hnumber : (Nat.repr n).toList.foldl (fun n c => n * 10 + digitValue c) 0 = n :=
    numberOf_repr n
  have habsorb : absorb 0 (Nat.repr n).toList = (n, []) := by
    rw [absorb_of_lt (by rwa [hnumber]), hnumber]
  simp only [Numeral.natural?, habsorb]

/-- Whole numbers that fit 64 bits, with or without a sign. -/
def isWholeNumber : Number → Bool
  | .integer i => decide (-((Nat.pow 2 63 : Nat) : Int) ≤ i ∧ i < ((Nat.pow 2 64 : Nat) : Int))
  | .double _ => false

theorem isSpace_of_isDigit {c : Char} (h : c.isDigit = true) : isSpace c = false := by
  have hne : ∀ d : Char, d.isDigit = false → (c == d) = false := fun d hd =>
    beq_eq_false_iff_ne.2 (ne_of_isDigit h hd)
  simp only [isSpace, hne ' ' (by decide), hne '\n' (by decide), hne '\t' (by decide),
    hne '\r' (by decide), Bool.or_self]

/-- A digit begins a number and nothing else. -/
theorem opening_digit (size : Nat) {c : Char} (h : c.isDigit = true) (cs : List Char) :
    opening size (c :: cs) =
      (readNumber false (c :: cs)).map fun (n, rest) => .scalar (.number n) rest := by
  have hne : ∀ d : Char, d.isDigit = false → (c == d) = false := fun d hd =>
    beq_eq_false_iff_ne.2 (ne_of_isDigit h hd)
  unfold opening
  rw [skipSpace_cons (isSpace_of_isDigit h)]
  simp only [hne 'n' (by decide), hne 't' (by decide), hne 'f' (by decide), hne '-' (by decide), h,
    Bool.false_eq_true, if_false, if_true]

/-- **A whole number is read back**, up to where it ends. -/
theorem opening_number {n : Number} (h : isWholeNumber n) {rest : List Char} (hrest : Ends rest)
    (size : Nat) : opening size (n.chars ++ rest) = .ok (.scalar (.number n) rest) := by
  cases n with
  | double x => exact nomatch h
  | integer i =>
      have hrange := of_decide_eq_true h
      cases i with
      | ofNat n =>
          have hn : n < Nat.pow 2 64 := Int.ofNat_lt.1 hrange.2
          have hread : readNumber false ((Nat.repr n).toList ++ rest) = .ok (.integer n, rest) := by
            simp only [readNumber, readNumeral_natural _ n hrest, Numeral.number?, natural?_repr hn,
              bind, Except.bind]
            rfl
          obtain ⟨d, ds, hdigits, hdigit⟩ := exists_cons_padded 0 n
          rw [padded_zero] at hdigits
          change opening size ((Nat.repr n).toList ++ rest) = _
          rw [hdigits, List.cons_append] at hread ⊢
          rw [opening_digit size hdigit, hread]
          rfl
      | negSucc n =>
          have hn : n + 1 ≤ Nat.pow 2 63 := by
            have hleast := hrange.1
            omega
          have hfits : n + 1 < Nat.pow 2 64 := Nat.lt_of_le_of_lt hn (by decide)
          have hread : readNumber true ((Nat.repr (n + 1)).toList ++ rest) =
              .ok (.integer (.negSucc n), rest) := by
            simp only [readNumber, readNumeral_natural _ (n + 1) hrest, Numeral.number?,
              natural?_repr hfits, bind, Except.bind, hn]
            rfl
          change opening size ('-' :: ((Nat.repr (n + 1)).toList ++ rest)) = _
          generalize (Nat.repr (n + 1)).toList ++ rest = text at hread ⊢
          unfold opening
          rw [skipSpace_cons (by decide)]
          simp [hread, Except.map]

/-! ### Scalars -/

/-- Whether all numbers in a value are whole and fit 64 bits. -/
def Value.isWhole : Value → Bool :=
  all fun
    | .number n => isWholeNumber n
    | _ => true

theorem Value.isWhole_array_iff {items : List Value} :
    (array items).isWhole ↔ ∀ v ∈ items, v.isWhole := by
  simp [isWhole, all_array_iff]

theorem Value.isWhole_object_iff {members : List (String × Value)} :
    (object members).isWhole ↔ ∀ m ∈ members, m.2.isWhole := by
  simp [isWhole, all_object_iff]

theorem opening_append {space : List Char} (h : Spaces space) (size : Nat) (cs : List Char) :
    opening size (space ++ cs) = opening size cs := by
  simp only [opening, skipSpace_append h]

/-- A string is read as it was meant. -/
theorem opening_string {cs text : List Char} (h : SpellsString cs text) {size : Nat}
    (hsize : text.length ≤ size) (rest : List Char) :
    opening size (text ++ rest) = .ok (.scalar (.string (String.ofList cs)) rest) := by
  obtain ⟨tail, rfl, hread⟩ := readString_spelled h hsize
  unfold opening
  rw [List.cons_append, skipSpace_cons (by decide)]
  simp [hread, Except.map]

/-- No text of a value begins with a space or with a bracket that closes a list. -/
theorem Value.SpelledBy.begins {v : Value} (hv : v.isWhole) {text : List Char}
    (h : v.SpelledBy text) : ∃ c cs, text = c :: cs ∧ isSpace c = false ∧ c ≠ ']' := by
  cases v with
  | null => exact ⟨_, _, h, by decide, by decide⟩
  | bool b => cases b <;> exact ⟨_, _, h, by decide, by decide⟩
  | number n =>
      obtain rfl : text = n.chars := h
      cases n with
      | double x => exact nomatch hv
      | integer i =>
          cases i with
          | ofNat n =>
              obtain ⟨d, ds, hdigits, hdigit⟩ := exists_cons_padded 0 n
              rw [padded_zero] at hdigits
              exact ⟨d, ds, hdigits, isSpace_of_isDigit hdigit, ne_of_isDigit hdigit (by decide)⟩
          | negSucc n => exact ⟨_, _, rfl, by decide, by decide⟩
  | string s =>
      obtain ⟨pieces, -, rfl⟩ := h
      exact ⟨_, _, rfl, by decide, by decide⟩
  | array items =>
      cases items with
      | nil =>
          obtain ⟨space, -, rfl⟩ := h
          exact ⟨_, _, rfl, by decide, by decide⟩
      | cons v rest =>
          obtain ⟨item, tail, -, -, rfl⟩ := h
          exact ⟨_, _, rfl, by decide, by decide⟩
  | object members =>
      cases members with
      | nil =>
          obtain ⟨space, -, rfl⟩ := h
          exact ⟨_, _, rfl, by decide, by decide⟩
      | cons m rest =>
          obtain ⟨member, tail, -, -, rfl⟩ := h
          exact ⟨_, _, rfl, by decide, by decide⟩

/-! ### Lists -/

section

variable {α : Type}

/-- **A reader makes something of every text of a value**, behind spaces and before what can stand
behind a number, as long as the text has no more than `size` characters. -/
def Value.IsReadAs (size : Nat) (read : List Char → Read α) (v : Value) (a : α) : Prop :=
  ∀ {space text rest : List Char}, Spaces space → v.SpelledBy text → text.length ≤ size →
    Ends rest → read (space ++ (text ++ rest)) = .ok (a, rest)

theorem nextItem_closing {space : List Char} (h : Spaces space) (first : Bool)
    (rest : List Char) : nextItem first (space ++ ']' :: rest) = .ok (.closed rest) := by
  rw [nextItem, skipSpace_append h, skipSpace_cons (by decide)]
  simp

/-- The first item follows the opening bracket. -/
theorem nextItem_first {space : List Char} (h : Spaces space) {v : Value} (hv : v.isWhole)
    {text : List Char} (htext : v.SpelledBy text) (rest : List Char) :
    nextItem true (space ++ (text ++ rest)) = .ok (.more (text ++ rest)) := by
  obtain ⟨c, cs, rfl, hspace, hclosing⟩ := htext.begins hv
  rw [nextItem, skipSpace_append h, List.cons_append, skipSpace_cons hspace]
  simp [hclosing]

/-- The others follow a comma. -/
theorem nextItem_comma {space before : List Char} (h : Spaces space) (hbefore : Spaces before)
    {v : Value} (hv : v.isWhole) {text : List Char} (htext : v.SpelledBy text)
    (rest : List Char) :
    nextItem false (space ++ ',' :: (before ++ (text ++ rest))) = .ok (.more (text ++ rest)) := by
  obtain ⟨c, cs, rfl, hspace, hclosing⟩ := htext.begins hv
  rw [nextItem, skipSpace_append h, skipSpace_cons (by decide)]
  simp [skipSpace_append hbefore, skipSpace_cons hspace, hclosing]

/-- An item ends before a comma and before the closing bracket. -/
theorem ends_items {values : List Value} {text : List Char} (h : ItemsSpelledBy values text)
    (rest : List Char) : Ends (text ++ rest) := by
  cases values with
  | nil =>
      obtain rfl : text = [']'] := h
      exact ends_cons (by decide)
  | cons v values =>
      obtain ⟨item, tail, -, -, rfl⟩ := h
      exact ends_cons (by decide)

variable {size : Nat} {read : List Char → Read α} {values : List Value} {as : List α}

/-- The items behind the first are read one after the other. -/
theorem readItems_spelled (hread : List.Forall₂ (Value.IsReadAs size read) values as)
    (hwhole : ∀ v ∈ values, v.isWhole) {space text : List Char} (hspace : Spaces space)
    (h : ItemsSpelledBy values text) (hsize : text.length ≤ size) {fuel index : Nat}
    (hfuel : text.length ≤ fuel) (hindex : index ≠ 0) (acc : List α) (rest : List Char) :
    readItems read fuel index acc (space ++ (text ++ rest)) = .ok (acc.reverse ++ as, rest) := by
  have hlater : (index == 0) = false := beq_eq_false_iff_ne.2 hindex
  induction hread generalizing space text fuel index acc with
  | nil =>
      obtain rfl : text = [']'] := h
      obtain ⟨fuel, rfl⟩ := Nat.exists_eq_add_of_le' hfuel
      simp [readItems, nextItem_closing hspace]
  | @cons v a values as hv _ ih =>
      obtain ⟨item, tail, ⟨before, core, after, hbefore, hcore, hafter, rfl⟩, htail, rfl⟩ := h
      simp only [List.length_cons, List.length_append] at hsize hfuel
      obtain ⟨fuel, rfl⟩ := Nat.exists_eq_add_of_le' (Nat.le_trans (Nat.succ_pos _) hfuel)
      have hv' := hwhole v List.mem_cons_self
      have hnext := nextItem_comma hspace hbefore hv' hcore (after ++ (tail ++ rest))
      have hitem := hv spaces_nil hcore (by omega) ((ends_items htail rest).spaces hafter)
      have hfuel : tail.length ≤ fuel := by omega
      have hrest := ih (fun v hv => hwhole v (List.mem_cons_of_mem _ hv)) hafter htail (by omega)
        hfuel (Nat.succ_ne_zero index) (a :: acc) rfl
      rw [List.nil_append] at hitem
      simp [readItems, hlater, hnext, hitem, hrest]

/-- **A list is read item by item**, behind its opening bracket. -/
theorem readItems_array (hread : List.Forall₂ (Value.IsReadAs size read) values as)
    (hwhole : ∀ v ∈ values, v.isWhole) {text : List Char} (h : (Value.array values).SpelledBy text)
    (hsize : text.length ≤ size) :
    ∃ tail, text = '[' :: tail ∧
      ∀ rest, readItems read (size + 1) 0 [] (tail ++ rest) = .ok (as, rest) := by
  cases hread with
  | nil =>
      obtain ⟨space, hspace, rfl⟩ := h
      refine ⟨_, rfl, fun rest => ?_⟩
      simp [readItems, nextItem_closing hspace]
  | @cons v a values as hv hvs =>
      obtain ⟨item, tail, ⟨before, core, after, hbefore, hcore, hafter, rfl⟩, htail, rfl⟩ := h
      simp only [List.length_cons, List.length_append] at hsize
      refine ⟨_, rfl, fun rest => ?_⟩
      have hv' := hwhole v List.mem_cons_self
      have hnext := nextItem_first hbefore hv' hcore (after ++ (tail ++ rest))
      have hitem := hv spaces_nil hcore (by omega) ((ends_items htail rest).spaces hafter)
      have htailSize : tail.length ≤ size := by omega
      have hrest := readItems_spelled hvs (fun v hv => hwhole v (List.mem_cons_of_mem _ hv)) hafter
        htail htailSize htailSize Nat.one_ne_zero [a] rest
      rw [List.nil_append] at hitem
      simp [readItems, hnext, hitem, hrest]

end

/-! ### Objects -/

/-- Reads a member after its name, and adds it to those that have been read. -/
def readMember (read : List Char → Read Value) (name : String) (members : List (String × Value))
    (cs : List Char) : Read (List (String × Value)) :=
  (readMemberValue name read cs).map fun (v, rest) => (Value.put name v members, rest)

theorem nextMember_closing {space : List Char} (h : Spaces space) (first : Bool)
    (rest : List Char) : nextMember first (space ++ '}' :: rest) = .ok (.closed rest) := by
  rw [nextMember, skipSpace_append h, skipSpace_cons (by decide)]
  simp

/-- The first name follows the opening brace. -/
theorem nextMember_first {space : List Char} (h : Spaces space) (rest : List Char) :
    nextMember true (space ++ '"' :: rest) = .ok (.more rest) := by
  rw [nextMember, skipSpace_append h, skipSpace_cons (by decide)]
  simp

/-- The others follow a comma. -/
theorem nextMember_comma {space before : List Char} (h : Spaces space) (hbefore : Spaces before)
    (rest : List Char) :
    nextMember false (space ++ ',' :: (before ++ '"' :: rest)) = .ok (.more rest) := by
  have hquote : isSpace '"' = false := by decide
  rw [nextMember, skipSpace_append h, skipSpace_cons (by decide)]
  simp [skipSpace_append hbefore, skipSpace_cons hquote]

/-- A member ends before a comma and before the closing brace. -/
theorem ends_members {members : List (String × Value)} {text : List Char}
    (h : MembersSpelledBy members text) (rest : List Char) : Ends (text ++ rest) := by
  cases members with
  | nil =>
      obtain rfl : text = ['}'] := h
      exact ends_cons (by decide)
  | cons m members =>
      obtain ⟨member, tail, -, -, rfl⟩ := h
      exact ends_cons (by decide)

section

variable {size : Nat} {read : List Char → Read Value} {members : List (String × Value)}

/-- The name and the value of a member are read one after the other. -/
theorem readMember_spelled {m : String × Value} (hm : m.2.IsReadAs size read m.2.normal)
    {text : List Char} (h : MemberSpelledBy m text) (hsize : text.length ≤ size) :
    ∃ before tail after, Spaces before ∧ Spaces after ∧ text = before ++ '"' :: (tail ++ after) ∧
      ∀ rest, Ends rest → ∃ behind, readString size (tail ++ rest) = .ok (m.1, behind) ∧
        ∀ acc, readMember read m.1 acc behind = .ok (Value.put m.1 m.2.normal acc, rest) := by
  obtain ⟨name, v⟩ := m
  obtain ⟨key, value, ⟨before, quoted, between, hbefore, hquoted, hbetween, rfl⟩,
    ⟨space, core, after, hspace, hcore, hafter, rfl⟩, rfl⟩ := h
  simp only [List.length_cons, List.length_append] at hsize
  have hquotedSize : quoted.length ≤ size := by omega
  obtain ⟨tail, rfl, hname⟩ := readString_spelled hquoted hquotedSize
  refine ⟨before, tail ++ (between ++ ':' :: (space ++ core)), after, hbefore, hafter, by simp, ?_⟩
  intro rest hrest
  have hcolon : readColon (between ++ ':' :: (space ++ (core ++ rest))) =
      .ok (space ++ (core ++ rest)) := by
    rw [readColon, skipSpace_append hbetween, skipSpace_cons (by decide)]
    simp
  have hvalue := hm hspace hcore (by omega) hrest
  refine ⟨between ++ ':' :: (space ++ (core ++ rest)), ?_, fun acc => ?_⟩
  · simpa using hname (between ++ ':' :: (space ++ (core ++ rest)))
  · simp only [readMember, readMemberValue, hcolon, hvalue]
    rfl

/-- The members behind the first are read one after the other. -/
theorem readMembers_spelled (hread : ∀ m ∈ members, m.2.IsReadAs size read m.2.normal)
    {space text : List Char} (hspace : Spaces space) (h : MembersSpelledBy members text)
    (hsize : text.length ≤ size) {fuel : Nat} (hfuel : text.length ≤ fuel)
    (acc : List (String × Value)) (rest : List Char) :
    readMembers size (readMember read) fuel false acc (space ++ (text ++ rest)) =
      .ok (Value.putAll acc (members.map fun m => (m.1, m.2.normal)), rest) := by
  induction members generalizing space text fuel acc with
  | nil =>
      obtain rfl : text = ['}'] := h
      obtain ⟨fuel, rfl⟩ := Nat.exists_eq_add_of_le' hfuel
      simp [readMembers, nextMember_closing hspace, Value.putAll]
  | cons m members ih =>
      obtain ⟨member, tail, hmember, htail, rfl⟩ := h
      simp only [List.length_cons, List.length_append] at hsize hfuel
      obtain ⟨fuel, rfl⟩ := Nat.exists_eq_add_of_le' (Nat.le_trans (Nat.succ_pos _) hfuel)
      obtain ⟨before, core, after, hbefore, hafter, rfl, hone⟩ :=
        readMember_spelled (hread m List.mem_cons_self) hmember (by omega)
      obtain ⟨behind, hname, hvalue⟩ := hone _ ((ends_members htail rest).spaces hafter)
      have hnext := nextMember_comma hspace hbefore (core ++ (after ++ (tail ++ rest)))
      have hfuel : tail.length ≤ fuel := by omega
      have hrest := ih (fun m hm => hread m (List.mem_cons_of_mem _ hm)) hafter htail (by omega)
        hfuel (Value.put m.1 m.2.normal acc)
      simp [readMembers, hnext, hname, hvalue, hrest, Value.putAll_cons]

/-- **An object is read member by member**, behind its opening brace. -/
theorem readMembers_object (hread : ∀ m ∈ members, m.2.IsReadAs size read m.2.normal)
    {text : List Char} (h : (Value.object members).SpelledBy text) (hsize : text.length ≤ size) :
    ∃ tail, text = '{' :: tail ∧
      ∀ rest, readMembers size (readMember read) (size + 1) true [] (tail ++ rest) =
        .ok (Value.putAll [] (members.map fun m => (m.1, m.2.normal)), rest) := by
  cases members with
  | nil =>
      obtain ⟨space, hspace, rfl⟩ := h
      refine ⟨_, rfl, fun rest => ?_⟩
      simp [readMembers, nextMember_closing hspace, Value.putAll]
  | cons m members =>
      obtain ⟨member, tail, hmember, htail, rfl⟩ := h
      simp only [List.length_cons, List.length_append] at hsize
      obtain ⟨before, core, after, hbefore, hafter, rfl, hone⟩ :=
        readMember_spelled (hread m List.mem_cons_self) hmember (by omega)
      refine ⟨_, rfl, fun rest => ?_⟩
      obtain ⟨behind, hname, hvalue⟩ := hone _ ((ends_members htail rest).spaces hafter)
      have hnext := nextMember_first hbefore (core ++ (after ++ (tail ++ rest)))
      have htailSize : tail.length ≤ size := by omega
      have hrest := readMembers_spelled (fun m hm => hread m (List.mem_cons_of_mem _ hm)) hafter
        htail htailSize htailSize (Value.put m.1 m.2.normal []) rest
      simp [readMembers, hnext, hname, hvalue, hrest, Value.putAll_cons]

end

/-! ### Values -/

theorem readValue_scalar {size : Nat} {cs rest : List Char} {v : Value}
    (h : opening size cs = .ok (.scalar v rest)) (levels : Nat) :
    readValue size levels cs = .ok (v, rest) := by
  cases levels <;> simp [readValue, readValueWith, h]

theorem readValue_array {size levels : Nat} {cs rest : List Char}
    (h : opening size cs = .ok (.list rest)) :
    readValue size (levels + 1) cs = (readItems (readValue size levels) (size + 1) 0 [] rest).map
      fun (items, rest) => (.array items, rest) := by
  simp only [readValue, readValueWith, h]

theorem readValue_object {size levels : Nat} {cs rest : List Char}
    (h : opening size cs = .ok (.object rest)) :
    readValue size (levels + 1) cs =
      (readMembers size (readMember (readValue size levels)) (size + 1) true [] rest).map
        fun (members, rest) => (.object members, rest) := by
  simp only [readValue, readValueWith, h]
  rfl

/-- **A text is read as the normal form of the value that it spells**, if its numbers are whole and
its brackets do not nest too deep. -/
theorem readValue_spelled {size levels : Nat} {v : Value} (hwhole : v.isWhole)
    (hdepth : v.depth ≤ levels) : v.IsReadAs size (readValue size levels) v.normal := by
  intro space text rest hspace htext hsize hrest
  induction v generalizing levels space text rest with
  | null =>
      obtain rfl : text = _ := htext
      refine readValue_scalar ?_ levels
      rw [opening_append hspace]
      rfl
  | bool b =>
      refine readValue_scalar ?_ levels
      rw [opening_append hspace]
      cases b <;> (obtain rfl : text = _ := htext; rfl)
  | number n =>
      obtain rfl : text = n.chars := htext
      refine readValue_scalar ?_ levels
      rw [opening_append hspace]
      exact opening_number hwhole hrest size
  | string s =>
      refine readValue_scalar ?_ levels
      rw [opening_append hspace, opening_string htext hsize, String.ofList_toList]
      rfl
  | array items ih =>
      obtain ⟨levels, rfl⟩ := Nat.exists_eq_add_of_le' (Nat.le_trans (Nat.succ_pos _) hdepth)
      have hitems := Value.isWhole_array_iff.1 hwhole
      have hlevels := Value.depth_array_le_iff.1 hdepth
      have hread : List.Forall₂ (Value.IsReadAs size (readValue size levels)) items
          (items.map Value.normal) := by
        rw [List.forall₂_map_right_iff, List.forall₂_same]
        exact fun v hv => ih v hv (hitems v hv) (hlevels v hv)
      obtain ⟨tail, rfl, hlist⟩ := readItems_array hread hitems htext hsize
      have hopening :
          opening size (space ++ ('[' :: tail ++ rest)) = .ok (.list (tail ++ rest)) := by
        rw [opening_append hspace]
        rfl
      rw [readValue_array hopening, hlist, Value.normal_array]
      rfl
  | object members ih =>
      obtain ⟨levels, rfl⟩ := Nat.exists_eq_add_of_le' (Nat.le_trans (Nat.succ_pos _) hdepth)
      have hmembers := Value.isWhole_object_iff.1 hwhole
      have hlevels := Value.depth_object_le_iff.1 hdepth
      have hread : ∀ m ∈ members, m.2.IsReadAs size (readValue size levels) m.2.normal :=
        fun m hm => ih m hm (hmembers m hm) (hlevels m hm)
      obtain ⟨tail, rfl, hobject⟩ := readMembers_object hread htext hsize
      have hopening :
          opening size (space ++ ('{' :: tail ++ rest)) = .ok (.object (tail ++ rest)) := by
        rw [opening_append hspace]
        rfl
      rw [readValue_object hopening, hobject, Value.normal_object, Value.ofMembers_eq]
      rfl

/-! ### Whole texts -/

/-- **A text of a value is read as the normal form of the value**, whatever spaces are around it. -/
theorem parse_spelled {v : Value} (hwhole : v.isWhole) (hdepth : v.depth ≤ greatestDepth)
    {text : String} (h : Padded v.SpelledBy text.toList) : parse text = .ok v.normal := by
  obtain ⟨space, core, after, hspace, hcore, hafter, htext⟩ := h
  have hends : Ends (after ++ []) := ends_nil.spaces hafter
  rw [List.append_nil] at hends
  have hsize : core.length ≤ text.toList.length := by
    rw [htext]
    simp only [List.length_append]
    omega
  have hread := readValue_spelled hwhole hdepth hspace hcore hsize hends
  rw [← htext] at hread
  have hend : skipSpace after = [] := by
    have hskip := skipSpace_append hafter []
    rwa [List.append_nil] at hskip
  simp only [parse, decode, decodeFront, Decoder.any, hread, hend]

/-- **What is printed for a value in normal form is read as that value.** -/
theorem parse_render {v : Value} (hwhole : v.isWhole) (hdepth : v.depth ≤ greatestDepth)
    (hsorted : v.isSorted) : parse v.render = .ok v := by
  have htext : Padded v.SpelledBy v.render.toList := by
    rw [Value.toList_render]
    exact padded_of v.spelledBy_chars
  rw [parse_spelled hwhole hdepth htext, Value.normal_of_isSorted hsorted]

/-- A string is read by the reader of strings. -/
theorem isReadAs_string (limits : Limits) (s : String) :
    (Value.string s).IsReadAs limits.size (Decoder.string limits) s := by
  intro space text rest hspace htext hsize hrest
  have hopening := opening_string htext hsize rest
  rw [String.ofList_toList] at hopening
  simp only [Decoder.string, Decoder.scalar, opening_append hspace, hopening]

/-- **A list of strings is read back as it was**, whatever characters they have. -/
theorem decode_list_string (names : List String) :
    decode (.list .string) (Value.array (names.map .string)).render = .ok names := by
  have htext := (Value.array (names.map .string)).spelledBy_chars
  rw [decode, decodeFront, Value.toList_render]
  generalize (Value.array (names.map Value.string)).chars = text at htext ⊢
  let limits : Limits := ⟨greatestDepth - 1, text.length⟩
  have hread : List.Forall₂ (Value.IsReadAs text.length (Decoder.string limits))
      (names.map Value.string) names := by
    rw [List.forall₂_map_left_iff, List.forall₂_same]
    exact fun name _ => isReadAs_string limits name
  have hwhole : ∀ v ∈ names.map Value.string, v.isWhole := by
    intro v hv
    obtain ⟨name, -, rfl⟩ := List.mem_map.1 hv
    rfl
  obtain ⟨tail, rfl, hlist⟩ := readItems_array hread hwhole htext (Nat.le_refl _)
  have hnames := hlist []
  rw [List.append_nil] at hnames
  have hopening : opening ('[' :: tail).length ('[' :: tail) = .ok (.list tail) := rfl
  have hdeeper : Decoder.deeper ⟨greatestDepth, ('[' :: tail).length⟩ (fun limits =>
      readItems (Decoder.string limits) (limits.size + 1) 0 [] tail) = .ok (names, []) := hnames
  simp only [Decoder.list, hopening, hdeeper]
  rfl

end ContactBook.Json
