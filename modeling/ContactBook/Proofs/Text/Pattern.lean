/-
**What the templates match.**

A value goes into a pattern with a backslash before each special character, and a template puts a
wildcard on one side of it or on both.  This module says which texts such a pattern matches, for
every value: the texts that have the value as a part, at their start or at their end, as the
comparison sees both.

The comparison does not see all of a text.  It stops at the first NUL, of the text and of the
pattern, and so a NUL in a value also cuts off the wildcard behind the value.  It reads the two
noncharacters U+FFFE and U+FFFF as the replacement character.  A value is *faithful* when none of
this touches it, and then a match is a real one up to the case of ASCII letters.

Main definitions:

* `ContactBook.Text.Pattern.compared` — what the comparison sees of a text;
* `ContactBook.Text.Pattern.Faithful` — values that it sees as they are.

Main results:

* `ContactBook.Text.Pattern.acceptsChars_escapeChars_append` — an escaped value is compared
  character by character;
* `ContactBook.Text.Pattern.accepts_containing_iff`, `accepts_startingWith_iff`,
  `accepts_endingWith_iff` — **what the three templates match**;
* `ContactBook.Text.Pattern.map_toLower_eq_of_map_seen` — what looks like a faithful value is one.
-/

import ContactBook.Text.Pattern
import Mathlib.Data.List.Basic

set_option autoImplicit false

namespace ContactBook.Text.Pattern

variable {value text ps : List Char}

/-! ### Patterns from left to right -/

theorem anyEnd_iff {p : List Char → Bool} :
    anyEnd p text = true ↔ ∃ rest, rest <:+ text ∧ p rest = true := by
  induction text with
  | nil => simp [anyEnd]
  | cons c text ih =>
      simp only [anyEnd, Bool.or_eq_true, ih, List.suffix_cons_iff]
      constructor
      · rintro (h | ⟨rest, hrest, h⟩)
        · exact ⟨_, .inl rfl, h⟩
        · exact ⟨rest, .inr hrest, h⟩
      · rintro ⟨rest, rfl | hrest, h⟩
        · exact .inl h
        · exact .inr ⟨rest, hrest, h⟩

theorem acceptsChars_any :
    acceptsChars ('%' :: ps) text = true ↔ ∃ rest, rest <:+ text ∧ acceptsChars ps rest = true := by
  rw [acceptsChars.eq_def]
  exact anyEnd_iff

theorem acceptsChars_marked (p : Char) :
    acceptsChars (escapeMark :: p :: ps) text = true ↔
      ∃ c cs, text = c :: cs ∧ seen p = seen c ∧ acceptsChars ps cs = true := by
  rw [acceptsChars.eq_def]
  cases text with
  | nil => simp [escapeMark]
  | cons c cs => simp [escapeMark]

theorem acceptsChars_plain {p : Char} (h : isSpecial p = false) :
    acceptsChars (p :: ps) text = true ↔
      ∃ c cs, text = c :: cs ∧ seen p = seen c ∧ acceptsChars ps cs = true := by
  obtain ⟨⟨hany, hone⟩, hmark⟩ : (p ≠ '%' ∧ p ≠ '_') ∧ p ≠ escapeMark := by
    simpa [isSpecial] using h
  rw [acceptsChars.eq_def]
  cases text with
  | nil => simp [hany, hone, hmark]
  | cons c cs => simp [hany, hone, hmark]

/-- A character of a value is compared with one character of the text, whether it is special or
not. -/
theorem acceptsChars_escapeChars_cons (v : Char) :
    acceptsChars (escapeChars (v :: value) ++ ps) text = true ↔
      ∃ c cs, text = c :: cs ∧ seen v = seen c ∧
        acceptsChars (escapeChars value ++ ps) cs = true := by
  have hchars : escapeChars (v :: value) =
      (if isSpecial v then [escapeMark, v] else [v]) ++ escapeChars value := rfl
  rw [hchars]
  cases hspecial : isSpecial v with
  | true => exact acceptsChars_marked v
  | false => exact acceptsChars_plain hspecial

/-- **An escaped value is compared character by character**, and the rest of the pattern with the
rest of the text. -/
theorem acceptsChars_escapeChars_append :
    acceptsChars (escapeChars value ++ ps) text = true ↔
      ∃ front rest, text = front ++ rest ∧ front.map seen = value.map seen ∧
        acceptsChars ps rest = true := by
  induction value generalizing text with
  | nil => simp [escapeChars]
  | cons v value ih =>
      rw [acceptsChars_escapeChars_cons]
      constructor
      · rintro ⟨c, cs, rfl, hv, h⟩
        obtain ⟨front, rest, rfl, hfront, hrest⟩ := ih.1 h
        exact ⟨c :: front, rest, rfl, by simp [hv, hfront], hrest⟩
      · rintro ⟨front, rest, rfl, hfront, hrest⟩
        cases front with
        | nil => simp at hfront
        | cons c front =>
            obtain ⟨hv, hfront⟩ := List.cons.inj hfront
            exact ⟨c, front ++ rest, rfl, hv.symm, ih.2 ⟨front, rest, rfl, hfront, hrest⟩⟩

/-! ### Templates -/

theorem acceptsChars_exactly :
    acceptsChars (escapeChars value) text = true ↔ text.map seen = value.map seen := by
  rw [← List.append_nil (escapeChars value), acceptsChars_escapeChars_append]
  simp [acceptsChars]

theorem acceptsChars_start :
    acceptsChars (escapeChars value ++ ['%']) text = true ↔
      value.map seen <+: text.map seen := by
  have hany : ∀ rest, acceptsChars ['%'] rest = true := fun rest =>
    acceptsChars_any.2 ⟨[], List.nil_suffix, rfl⟩
  rw [acceptsChars_escapeChars_append, List.prefix_map_iff]
  constructor
  · rintro ⟨front, rest, rfl, hfront, -⟩
    exact ⟨front, List.prefix_append _ _, hfront.symm⟩
  · rintro ⟨front, ⟨rest, rfl⟩, hfront⟩
    exact ⟨front, rest, rfl, hfront.symm, hany rest⟩

theorem acceptsChars_end :
    acceptsChars ('%' :: escapeChars value) text = true ↔
      value.map seen <:+ text.map seen := by
  simp only [acceptsChars_any, acceptsChars_exactly, List.suffix_map_iff]
  exact exists_congr fun rest => and_congr_right fun _ => eq_comm

theorem acceptsChars_part :
    acceptsChars ('%' :: (escapeChars value ++ ['%'])) text = true ↔
      value.map seen <:+: text.map seen := by
  simp only [acceptsChars_any, acceptsChars_start, List.infix_iff_prefix_suffix,
    List.suffix_map_iff]
  constructor
  · rintro ⟨rest, hrest, h⟩
    exact ⟨_, h, rest, hrest, rfl⟩
  · rintro ⟨_, h, rest, hrest, rfl⟩
    exact ⟨rest, hrest, h⟩

/-! ### The first NUL -/

@[simp] theorem untilNul_cons (c : Char) (cs : List Char) :
    untilNul (c :: cs) = if c = '\x00' then [] else c :: untilNul cs := by
  by_cases h : c = '\x00'
  · simp [untilNul, h]
  · simp [untilNul, h]

/-- What stands behind a NUL does not count. -/
theorem untilNul_append (a b : List Char) :
    untilNul (a ++ b) = if '\x00' ∈ a then untilNul a else a ++ untilNul b := by
  induction a with
  | nil => simp
  | cons c a ih =>
      by_cases hc : c = '\x00'
      · simp [hc]
      · by_cases ha : '\x00' ∈ a <;> simp [hc, ha, ih, Ne.symm hc]

theorem untilNul_of_not_mem {cs : List Char} (h : '\x00' ∉ cs) : untilNul cs = cs := by
  have := untilNul_append cs []
  rw [List.append_nil, if_neg h] at this
  simpa [untilNul] using this

theorem nul_mem_escapeChars : '\x00' ∈ escapeChars value ↔ '\x00' ∈ value := by
  have hchar : ∀ c, '\x00' ∈ (if isSpecial c then [escapeMark, c] else [c]) ↔ '\x00' = c := by
    intro c
    cases isSpecial c <;> simp [escapeMark]
  simp only [escapeChars, List.mem_flatMap, hchar, exists_eq_right']

theorem untilNul_escapeChars : untilNul (escapeChars value) = escapeChars (untilNul value) := by
  induction value with
  | nil => rfl
  | cons v value ih =>
      have hchars : ∀ cs, escapeChars (v :: cs) =
          (if isSpecial v then [escapeMark, v] else [v]) ++ escapeChars cs := fun _ => rfl
      by_cases hv : v = '\x00'
      · subst hv
        rfl
      · rw [hchars, untilNul_cons, if_neg hv, hchars, untilNul_append, ih, if_neg]
        cases isSpecial v <;> simp [escapeMark, Ne.symm hv]

/-! ### What the comparison sees -/

/-- What the comparison sees of a text. -/
def compared (s : String) : List Char := (untilNul s.toList).map seen

/-- **What matches the pattern of a part**: the texts that have the value as a part.  Of a value
with a NUL it is the texts that end with what stands before it. -/
theorem accepts_containing_iff {value text : String} :
    accepts (containing value) text = true ↔
      if '\x00' ∈ value.toList then compared value <:+ compared text
      else compared value <:+: compared text := by
  have hpattern : (containing value).toList = '%' :: (escapeChars value.toList ++ ['%']) := by
    simp [containing, escape]
  have huntil : untilNul (containing value).toList =
      '%' :: (if '\x00' ∈ value.toList then escapeChars (untilNul value.toList)
        else escapeChars value.toList ++ ['%']) := by
    rw [hpattern, untilNul_cons, if_neg (by decide), untilNul_append]
    simp only [nul_mem_escapeChars, untilNul_escapeChars]
    rfl
  rw [accepts, huntil]
  by_cases h : '\x00' ∈ value.toList
  · rw [if_pos h, if_pos h, acceptsChars_end]
    rfl
  · rw [if_neg h, if_neg h, acceptsChars_part, compared, untilNul_of_not_mem h]
    rfl

/-- **What matches the pattern of a start**: the texts that start with the value.  Of a value with a
NUL it is the texts that are what stands before it. -/
theorem accepts_startingWith_iff {value text : String} :
    accepts (startingWith value) text = true ↔
      if '\x00' ∈ value.toList then compared value = compared text
      else compared value <+: compared text := by
  have hpattern : (startingWith value).toList = escapeChars value.toList ++ ['%'] := by
    simp [startingWith, escape]
  have huntil : untilNul (startingWith value).toList =
      if '\x00' ∈ value.toList then escapeChars (untilNul value.toList)
        else escapeChars value.toList ++ ['%'] := by
    rw [hpattern, untilNul_append]
    simp only [nul_mem_escapeChars, untilNul_escapeChars]
    rfl
  rw [accepts, huntil]
  by_cases h : '\x00' ∈ value.toList
  · rw [if_pos h, if_pos h, acceptsChars_exactly]
    exact eq_comm
  · rw [if_neg h, if_neg h, acceptsChars_start, compared, untilNul_of_not_mem h]
    rfl

/-- **What matches the pattern of an end**: the texts that end with the value, as far as there is no
NUL in it. -/
theorem accepts_endingWith_iff {value text : String} :
    accepts (endingWith value) text = true ↔ compared value <:+ compared text := by
  have hpattern : (endingWith value).toList = '%' :: escapeChars value.toList := by
    simp [endingWith, escape]
  rw [accepts, hpattern, untilNul_cons, if_neg (by decide), untilNul_escapeChars, acceptsChars_end]
  rfl

/-! ### Faithful values -/

/-- The characters that the comparison does not see as they are, or takes others for. -/
def confused : List Char := ['\x00', '\uFFFD', '\uFFFE', '\uFFFF']

/-- A value that the comparison sees as it is, up to the case of ASCII letters. -/
def Faithful (value : String) : Prop := ∀ c ∈ value.toList, c ∉ confused

instance (value : String) : Decidable (Faithful value) :=
  List.decidableBAll (fun c => c ∉ confused) value.toList

/-- A character that is made small and lies behind the small letters was small. -/
theorem toLower_eq_self {c : Char} (h : 122 < c.toLower.toNat) : c.toLower = c := by
  unfold Char.toLower at *
  split at h
  next hcapital =>
    have hle : c.val.toNat ≤ 90 := UInt32.le_iff_toNat_le.1 hcapital.2
    have hdistance : ('a'.val - 'A'.val).toNat = 32 := rfl
    rw [Char.toNat, UInt32.toNat_add] at h
    omega
  next hsmall => rw [dif_neg hsmall]

/-- No capital letter has the replacement character as its small one. -/
theorem eq_replacement_of_toLower {c : Char} (h : c.toLower = '\uFFFD') : c = '\uFFFD' :=
  (toLower_eq_self (by rw [h]; decide)).symm.trans h

/-- What looks like a character of a faithful value is one, up to case. -/
theorem toLower_eq_of_seen_eq {c d : Char} (hc : c ∉ confused) (h : seen d = seen c) :
    d.toLower = c.toLower := by
  simp only [confused, List.mem_cons, List.not_mem_nil, or_false, not_or] at hc
  have hseen : seen c = c.toLower := by simp [seen, hc]
  rw [hseen] at h
  by_cases hd : (d == '\uFFFE' || d == '\uFFFF') = true
  · rw [seen, if_pos hd] at h
    exact absurd (eq_replacement_of_toLower h.symm) hc.2.1
  · rwa [seen, if_neg hd] at h

/-- **What looks like a faithful value is one**, up to case. -/
theorem map_toLower_eq_of_map_seen {value part : List Char} (hv : ∀ c ∈ value, c ∉ confused)
    (h : part.map seen = value.map seen) : part.map Char.toLower = value.map Char.toLower := by
  induction value generalizing part with
  | nil => simpa using h
  | cons c value ih =>
      cases part with
      | nil => simp at h
      | cons d part =>
          obtain ⟨hhead, htail⟩ := List.cons.inj h
          rw [List.map_cons, List.map_cons,
            toLower_eq_of_seen_eq (hv c List.mem_cons_self) hhead,
            ih (fun c hc => hv c (List.mem_cons_of_mem _ hc)) htail]

end ContactBook.Text.Pattern
