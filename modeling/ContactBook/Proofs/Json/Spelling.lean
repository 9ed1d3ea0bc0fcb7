/-
**The texts that spell a JSON value.**

A value can be written in many ways: with spaces between its words, with the characters of a string
as they are or behind a backslash, with hexadecimal digits of either case.  This module says which
texts spell a value, without saying how they are read.  The members of an object are spelled in the
order in which the value has them, so a value here is also a syntax tree: its objects may have their
members in any order, and more than one of a name.

Main definitions:

* `ContactBook.Json.Padded` — a text with spaces around it;
* `ContactBook.Json.SpellsChar`, `ContactBook.Json.SpellsString` — the texts of a character and of a
  string;
* `ContactBook.Json.Value.SpelledBy` — **the texts of a value**.

Main result:

* `ContactBook.Json.Value.spelledBy_chars` — **a value is spelled by the text that is printed**.
-/

import ContactBook.Json.Printer
import ContactBook.Json.Lexer
import ContactBook.Proofs.Json.Normal
import Mathlib.Data.List.Forall2

set_option autoImplicit false

namespace ContactBook.Json

/-! ### Characters and strings -/

/-- A text of spaces only. -/
def Spaces (cs : List Char) : Prop := ∀ c ∈ cs, isSpace c = true

instance (cs : List Char) : Decidable (Spaces cs) :=
  decidable_of_iff (cs.all isSpace = true) List.all_eq_true

/-- A text with spaces around it. -/
def Padded (P : List Char → Prop) (text : List Char) : Prop :=
  ∃ before core after, Spaces before ∧ P core ∧ Spaces after ∧ text = before ++ (core ++ after)

theorem spaces_nil : Spaces [] := fun _ hc => absurd hc List.not_mem_nil

theorem padded_of {P : List Char → Prop} {text : List Char} (h : P text) : Padded P text :=
  ⟨[], text, [], spaces_nil, h, spaces_nil, (List.append_nil text).symm⟩

/-- A hexadecimal digit of either case. -/
def SpellsHex (n : Nat) (c : Char) : Prop := n < 16 ∧ (c = hexDigit n ∨ c = (hexDigit n).toUpper)

instance (n : Nat) (c : Char) : Decidable (SpellsHex n c) :=
  inferInstanceAs (Decidable (n < 16 ∧ (c = hexDigit n ∨ c = (hexDigit n).toUpper)))

/-- Four hexadecimal digits. -/
inductive SpellsUnit : Nat → List Char → Prop
  | digits {n m k l : Nat} {a b c d : Char} :
      SpellsHex n a → SpellsHex m b → SpellsHex k c → SpellsHex l d →
        SpellsUnit (((n * 16 + m) * 16 + k) * 16 + l) [a, b, c, d]

/-- The letters that stand for a character when they are behind a backslash, and the characters. -/
def shortEscapes : List (Char × Char) :=
  [('"', '"'), ('\\', '\\'), ('/', '/'), ('b', Char.ofNat 0x08), ('f', Char.ofNat 0x0C),
    ('n', '\n'), ('r', '\r'), ('t', '\t')]

/-- **The texts of a character in a string**: the character itself, an escape with a letter or with
the number of the character, and behind the first 65536 characters an escape with two numbers. -/
inductive SpellsChar (c : Char) : List Char → Prop
  | plain : c ≠ '"' → c ≠ '\\' → 0x20 ≤ c.toNat → SpellsChar c [c]
  | short {letter : Char} : (letter, c) ∈ shortEscapes → SpellsChar c ['\\', letter]
  | unit {text : List Char} : SpellsUnit c.toNat text → SpellsChar c ('\\' :: 'u' :: text)
  | pair {high low : Nat} {text text' : List Char} :
      high < 0x400 → low < 0x400 → c.toNat = 0x10000 + high * 0x400 + low →
      SpellsUnit (0xD800 + high) text → SpellsUnit (0xDC00 + low) text' →
        SpellsChar c ('\\' :: 'u' :: (text ++ '\\' :: 'u' :: text'))

/-- The texts of a string. -/
def SpellsString (cs text : List Char) : Prop :=
  ∃ pieces, List.Forall₂ SpellsChar cs pieces ∧ text = '"' :: (pieces.flatten ++ ['"'])

/-! ### Values -/

mutual

/-- **The texts of a value.** -/
def Value.SpelledBy : Value → List Char → Prop
  | .null => fun text => text = ['n', 'u', 'l', 'l']
  | .bool true => fun text => text = ['t', 'r', 'u', 'e']
  | .bool false => fun text => text = ['f', 'a', 'l', 's', 'e']
  | .number n => fun text => text = n.chars
  | .string s => SpellsString s.toList
  | .array [] => fun text => ∃ space, Spaces space ∧ text = '[' :: (space ++ [']'])
  | .array (v :: rest) => fun text => ∃ item tail,
      Padded v.SpelledBy item ∧ ItemsSpelledBy rest tail ∧ text = '[' :: (item ++ tail)
  | .object [] => fun text => ∃ space, Spaces space ∧ text = '{' :: (space ++ ['}'])
  | .object (m :: rest) => fun text => ∃ member tail,
      MemberSpelledBy m member ∧ MembersSpelledBy rest tail ∧ text = '{' :: (member ++ tail)

/-- The texts of the items after the first, with the closing bracket. -/
def ItemsSpelledBy : List Value → List Char → Prop
  | [] => fun text => text = [']']
  | v :: rest => fun text => ∃ item tail,
      Padded v.SpelledBy item ∧ ItemsSpelledBy rest tail ∧ text = ',' :: (item ++ tail)

/-- The texts of one member of an object. -/
def MemberSpelledBy : String × Value → List Char → Prop
  | (name, v) => fun text => ∃ key value,
      Padded (SpellsString name.toList) key ∧ Padded v.SpelledBy value ∧ text = key ++ ':' :: value

/-- The texts of the members after the first, with the closing brace. -/
def MembersSpelledBy : List (String × Value) → List Char → Prop
  | [] => fun text => text = ['}']
  | m :: rest => fun text => ∃ member tail,
      MemberSpelledBy m member ∧ MembersSpelledBy rest tail ∧ text = ',' :: (member ++ tail)

end

/-! ### The printed text -/

theorem spellsHex_hexDigit {n : Nat} (h : n < 16) : SpellsHex n (hexDigit n) := ⟨h, .inl rfl⟩

theorem spellsChar_escapedChar (c : Char) : SpellsChar c (escapedChar c) := by
  have hshort : ∀ n letter, (letter, Char.ofNat n) ∈ shortEscapes → c.toNat = n →
      SpellsChar c ['\\', letter] := by
    rintro n letter hmem rfl
    rw [Char.ofNat_toNat] at hmem
    exact .short hmem
  unfold escapedChar
  simp only [beq_iff_eq]
  split_ifs with hquote hbackslash hn hr ht hb hf hcontrol
  · exact .short (by rw [hquote]; decide)
  · exact .short (by rw [hbackslash]; decide)
  · exact .short (by rw [hn]; decide)
  · exact .short (by rw [hr]; decide)
  · exact .short (by rw [ht]; decide)
  · exact hshort 0x08 'b' (by decide) hb
  · exact hshort 0x0C 'f' (by decide) hf
  · -- the number of a control has two digits
    have hzero : SpellsHex 0 '0' := spellsHex_hexDigit (by decide)
    have hdigits := SpellsUnit.digits hzero hzero
      (spellsHex_hexDigit (show c.toNat / 16 < 16 by omega))
      (spellsHex_hexDigit (show c.toNat % 16 < 16 by omega))
    have hback : ((0 * 16 + 0) * 16 + c.toNat / 16) * 16 + c.toNat % 16 = c.toNat := by omega
    rw [hback] at hdigits
    exact .unit hdigits
  · exact .plain hquote hbackslash (by omega)

theorem spellsString_quotedChars (cs : List Char) : SpellsString cs (quotedChars cs) := by
  refine ⟨cs.map escapedChar, ?_, by simp [quotedChars, List.flatMap_def]⟩
  rw [List.forall₂_map_right_iff, List.forall₂_same]
  exact fun c _ => spellsChar_escapedChar c

namespace Value

theorem itemsSpelledBy_itemsChars {items : List Value}
    (h : ∀ v ∈ items, v.SpelledBy v.chars) : ItemsSpelledBy items (itemsChars items) := by
  induction items with
  | nil => rfl
  | cons v items ih =>
      have hrest := ih fun v hv => h v (List.mem_cons_of_mem _ hv)
      exact ⟨v.chars, itemsChars items, padded_of (h v List.mem_cons_self), hrest, rfl⟩

theorem memberSpelledBy_memberChars {m : String × Value} (h : m.2.SpelledBy m.2.chars) :
    MemberSpelledBy m (memberChars m) := by
  obtain ⟨name, v⟩ := m
  exact ⟨quotedChars name.toList, v.chars, padded_of (spellsString_quotedChars _), padded_of h, rfl⟩

theorem membersSpelledBy_membersChars {members : List (String × Value)}
    (h : ∀ m ∈ members, m.2.SpelledBy m.2.chars) :
    MembersSpelledBy members (membersChars members) := by
  induction members with
  | nil => rfl
  | cons m members ih =>
      have hrest := ih fun m hm => h m (List.mem_cons_of_mem _ hm)
      have hfirst := memberSpelledBy_memberChars (h m List.mem_cons_self)
      exact ⟨memberChars m, membersChars members, hfirst, hrest, rfl⟩

/-- **A value is spelled by the text that is printed.** -/
theorem spelledBy_chars (v : Value) : v.SpelledBy v.chars := by
  induction v with
  | null => rfl
  | bool b => cases b <;> rfl
  | number n => rfl
  | string s => exact spellsString_quotedChars s.toList
  | array items ih =>
      cases items with
      | nil => exact ⟨[], spaces_nil, rfl⟩
      | cons v rest =>
          have hrest := itemsSpelledBy_itemsChars fun v hv => ih v (List.mem_cons_of_mem _ hv)
          exact ⟨v.chars, itemsChars rest, padded_of (ih v List.mem_cons_self), hrest, rfl⟩
  | object members ih =>
      cases members with
      | nil => exact ⟨[], spaces_nil, rfl⟩
      | cons m rest =>
          have hrest := membersSpelledBy_membersChars fun m hm => ih m (List.mem_cons_of_mem _ hm)
          have hfirst := memberSpelledBy_memberChars (ih m List.mem_cons_self)
          exact ⟨memberChars m, membersChars rest, hfirst, hrest, rfl⟩

end Value

end ContactBook.Json
