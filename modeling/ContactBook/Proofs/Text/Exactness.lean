/-
**The templates are exact.**

The three templates are meant to find a value in a text up to the case of ASCII letters: somewhere
in it, at its start or at its end.  They miss no such place, whatever special characters there are
in the value or in the text, and a backslash at the end of a value does not touch the wildcard
behind it.

What they find is a real one as long as the value and the text are kept apart.  The comparison reads
the two noncharacters U+FFFE and U+FFFF as the replacement character, so it takes any of the three
for any other; a value with one of them is found in a text that has another in its place, and
`accepts_of_replaced` is an example.  NUL is the subject of `ContactBook.Proofs.Text.Pattern`, and
there is none here.

Main definitions:

* `ContactBook.Text.Pattern.SameLetters` — **the reference**: equality up to the case of ASCII
  letters;
* `ContactBook.Text.Pattern.KeptApart` — values and texts of which the comparison takes no character
  for another;
* `ContactBook.Text.Pattern.Place` — where a template looks for a value.

Main results:

* `ContactBook.Text.Pattern.map_seen_of_sameLetters`, `sameLetters_of_map_seen` — what is the same
  looks the same, and the other way round if the characters are kept apart;
* `ContactBook.Text.Pattern.accepts_pattern` — **what is there the templates find, and what
  they find is there**.
-/

import ContactBook.Proofs.Text.Pattern

set_option autoImplicit false

namespace ContactBook.Text.Pattern

/-! ### The reference -/

/-- **Whether two texts are equal up to the case of ASCII letters.** -/
def SameLetters (a b : List Char) : Prop := a.map Char.toLower = b.map Char.toLower

/-- The characters that the comparison takes for one another. -/
def replaced : List Char := ['\uFFFD', '\uFFFE', '\uFFFF']

/-- **Values and texts that are kept apart**: no two different ones of the three characters that are
taken for one another come together. -/
def KeptApart (value text : List Char) : Prop :=
  ∀ v ∈ value, ∀ c ∈ text, v ∈ replaced → c ∈ replaced → v = c

instance (a b : List Char) : Decidable (SameLetters a b) :=
  inferInstanceAs (Decidable (a.map Char.toLower = b.map Char.toLower))

instance (value text : List Char) : Decidable (KeptApart value text) :=
  decidable_of_iff
    (value.all fun v => text.all fun c => decide (v ∈ replaced → c ∈ replaced → v = c)) (by
      simp only [KeptApart, List.all_eq_true, decide_eq_true_eq])

/-! ### One character -/

/-- What the comparison sees of a character is its small letter, unless it reads the replacement
character instead. -/
theorem seen_eq (c : Char) : seen c = if c ∈ replaced then '\uFFFD' else c.toLower := by
  by_cases hc : c = '\uFFFD'
  · subst hc
    decide
  · have hmem : (c == '\uFFFE' || c == '\uFFFF') = true ↔ c ∈ replaced := by
      simp [replaced, hc]
    simp only [seen, hmem]

/-- None of the three characters is a letter or the small one of a letter. -/
theorem toLower_mem_replaced_iff {c : Char} : c.toLower ∈ replaced ↔ c ∈ replaced := by
  have hsmall : ∀ d ∈ replaced, d.toLower = d ∧ 122 < d.toNat := by
    simp only [replaced, List.forall_mem_cons, List.not_mem_nil, false_imp_iff, implies_true]
    decide +kernel
  constructor
  · intro h
    rwa [toLower_eq_self (hsmall _ h).2] at h
  · intro h
    rwa [(hsmall _ h).1]

/-- What is the same up to case looks the same. -/
theorem seen_eq_of_toLower_eq {c d : Char} (h : c.toLower = d.toLower) : seen c = seen d := by
  have hmem : c ∈ replaced ↔ d ∈ replaced := by
    rw [← toLower_mem_replaced_iff, h, toLower_mem_replaced_iff]
  simp only [seen_eq, hmem, h]

/-- What looks the same is the same up to case, if it is not one of the three characters and
another. -/
theorem toLower_eq_of_keptApart {c d : Char} (hapart : c ∈ replaced → d ∈ replaced → c = d)
    (h : seen c = seen d) : c.toLower = d.toLower := by
  have hmem : ∀ {e : Char}, '\uFFFD' = e.toLower → e ∈ replaced := by
    intro e he
    rw [← toLower_mem_replaced_iff, ← he]
    exact List.mem_cons_self
  rw [seen_eq, seen_eq] at h
  split_ifs at h with hc hd hd
  · rw [hapart hc hd]
  · exact absurd (hmem h) hd
  · exact absurd (hmem h.symm) hc
  · exact h

/-! ### Texts -/

variable {value part : List Char}

/-- What is the same up to case looks the same. -/
theorem map_seen_of_sameLetters (h : SameLetters part value) : part.map seen = value.map seen := by
  induction part generalizing value with
  | nil =>
      obtain rfl : value = [] := by simpa [SameLetters] using h.symm
      rfl
  | cons c part ih =>
      cases value with
      | nil => simp [SameLetters] at h
      | cons v value =>
          obtain ⟨hhead, htail⟩ := List.cons.inj h
          rw [List.map_cons, List.map_cons, seen_eq_of_toLower_eq hhead, ih htail]

/-- **What looks the same is the same up to case**, if it is kept apart. -/
theorem sameLetters_of_map_seen (hapart : KeptApart value part)
    (h : part.map seen = value.map seen) : SameLetters part value := by
  induction part generalizing value with
  | nil =>
      obtain rfl : value = [] := by simpa using h.symm
      rfl
  | cons c part ih =>
      cases value with
      | nil => simp at h
      | cons v value =>
          obtain ⟨hhead, htail⟩ := List.cons.inj h
          have hfirst : c.toLower = v.toLower :=
            toLower_eq_of_keptApart (fun hc hv =>
              (hapart v List.mem_cons_self c List.mem_cons_self hv hc).symm) hhead
          have hrest : KeptApart value part := fun v hv c hc =>
            hapart v (List.mem_cons_of_mem _ hv) c (List.mem_cons_of_mem _ hc)
          rw [SameLetters, List.map_cons, List.map_cons, hfirst, ih hrest htail]

/-- What is kept apart in a text is kept apart in each part of it. -/
theorem KeptApart.of_subset {text : List Char} (h : KeptApart value text) (hpart : part ⊆ text) :
    KeptApart value part := fun v hv c hc => h v hv c (hpart hc)

/-! ### Templates -/

/-- Where a template looks for a value in a text. -/
inductive Place where
  | anywhere
  | start
  | finish
  deriving DecidableEq, Repr

namespace Place

/-- The template for a place. -/
def pattern : Place → String → String
  | anywhere => containing
  | start => startingWith
  | finish => endingWith

/-- Whether characters stand at a place in others. -/
def IsAt : Place → List Char → List Char → Prop
  | anywhere, part, text => part <:+: text
  | start, part, text => part <+: text
  | finish, part, text => part <:+ text

instance (place : Place) (part text : List Char) : Decidable (place.IsAt part text) :=
  match place with
  | anywhere => inferInstanceAs (Decidable (part <:+: text))
  | start => inferInstanceAs (Decidable (part <+: text))
  | finish => inferInstanceAs (Decidable (part <:+ text))

variable {place : Place} {text : List Char}

theorem IsAt.subset (h : place.IsAt part text) : part ⊆ text := by
  cases place with
  | anywhere => exact List.IsInfix.subset h
  | start => exact List.IsPrefix.subset h
  | finish => exact List.IsSuffix.subset h

/-- What stands at a place in a text that was changed letter by letter was there before. -/
theorem isAt_map_iff {f : Char → Char} :
    place.IsAt value (text.map f) ↔ ∃ part, place.IsAt part text ∧ value = part.map f := by
  cases place with
  | anywhere => exact List.infix_map_iff
  | start => exact List.prefix_map_iff
  | finish => exact List.suffix_map_iff

end Place

variable {place : Place} {value text : String}

/-- Without NUL a template finds what looks like the value. -/
theorem accepts_pattern_iff_map_seen (hv : '\x00' ∉ value.toList) (ht : '\x00' ∉ text.toList) :
    accepts (place.pattern value) text = true ↔
      ∃ part, place.IsAt part text.toList ∧ part.map seen = value.toList.map seen := by
  have hcompared : accepts (place.pattern value) text = true ↔
      place.IsAt (compared value) (compared text) := by
    cases place with
    | anywhere => rw [Place.pattern, accepts_containing_iff, if_neg hv, Place.IsAt]
    | start => rw [Place.pattern, accepts_startingWith_iff, if_neg hv, Place.IsAt]
    | finish => rw [Place.pattern, accepts_endingWith_iff, Place.IsAt]
  rw [hcompared, compared, compared, untilNul_of_not_mem hv, untilNul_of_not_mem ht,
    Place.isAt_map_iff]
  exact exists_congr fun part => and_congr_right fun _ => eq_comm

/-- **What is there the templates find, and what they find is there.**  Up to the case of ASCII
letters, a value that stands in a text at the place of a template is found by the template.  Where
the value and the text are kept apart, the template finds nothing else. -/
theorem accepts_pattern (place : Place) (hv : '\x00' ∉ value.toList) (ht : '\x00' ∉ text.toList) :
    ((∃ part, place.IsAt part text.toList ∧ SameLetters part value.toList) →
        accepts (place.pattern value) text = true) ∧
      (KeptApart value.toList text.toList →
        (accepts (place.pattern value) text = true ↔
          ∃ part, place.IsAt part text.toList ∧ SameLetters part value.toList)) := by
  have hfinds : (∃ part, place.IsAt part text.toList ∧ SameLetters part value.toList) →
      accepts (place.pattern value) text = true := by
    rintro ⟨part, hpart, hsame⟩
    exact (accepts_pattern_iff_map_seen hv ht).2 ⟨part, hpart, map_seen_of_sameLetters hsame⟩
  refine ⟨hfinds, fun hapart => ⟨fun haccepts => ?_, hfinds⟩⟩
  obtain ⟨part, hpart, hlooks⟩ := (accepts_pattern_iff_map_seen hv ht).1 haccepts
  exact ⟨part, hpart, sameLetters_of_map_seen (hapart.of_subset hpart.subset) hlooks⟩

/-- The value `5_\` ends with the character that takes the next one literally.  It stands in
`AT 5_\%` before the sign and nowhere in `AT 51\%`, and the template for any place finds it in the
one and not in the other. -/
theorem accepts_pattern_ofPrice :
    '\x00' ∉ "5_\\".toList ∧ '\x00' ∉ "AT 5_\\%".toList ∧ '\x00' ∉ "AT 51\\%".toList ∧
      accepts (containing "5_\\") "AT 5_\\%" = true ∧
      ¬ accepts (containing "5_\\") "AT 51\\%" = true := by
  have hv : '\x00' ∉ "5_\\".toList := by decide +kernel
  have ht : '\x00' ∉ "AT 5_\\%".toList := by decide +kernel
  have ht' : '\x00' ∉ "AT 51\\%".toList := by decide +kernel
  refine ⟨hv, ht, ht', (accepts_pattern .anywhere hv ht).1 ?_, fun h => ?_⟩
  · exact ⟨"5_\\".toList, by decide +kernel, rfl⟩
  · obtain ⟨part, hpart, hsame⟩ := ((accepts_pattern .anywhere hv ht').2 (by decide +kernel)).1 h
    have hfolded : "5_\\".toList.map Char.toLower <:+: "AT 51\\%".toList.map Char.toLower := by
      rw [← hsame]
      exact List.IsInfix.map _ hpart
    exact absurd hfolded (by decide +kernel)

/-- **The three characters are taken for one another.**  A noncharacter does not stand in a text
that holds the replacement character alone, but every template finds it there. -/
theorem accepts_of_replaced :
    '\x00' ∉ "\uFFFE".toList ∧ '\x00' ∉ "\uFFFD".toList ∧
      ∀ place : Place, accepts (place.pattern "\uFFFE") "\uFFFD" = true ∧
        ¬ ∃ part, place.IsAt part "\uFFFD".toList ∧ SameLetters part "\uFFFE".toList := by
  refine ⟨by decide +kernel, by decide +kernel, fun place => ?_⟩
  refine ⟨by cases place <;> decide +kernel, ?_⟩
  rintro ⟨part, hpart, hsame⟩
  have hmem : '\uFFFE' ∈ part.map Char.toLower := by
    rw [hsame]
    decide +kernel
  obtain ⟨c, hc, hlower⟩ := List.mem_map.1 hmem
  have hreplacement : c = '\uFFFD' := by simpa using hpart.subset hc
  rw [hreplacement] at hlower
  exact absurd hlower (by decide +kernel)

end ContactBook.Text.Pattern
