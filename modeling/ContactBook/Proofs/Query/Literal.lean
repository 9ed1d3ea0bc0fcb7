/-
**Values are taken literally.**

A user who asks for the contacts whose city contains `50%` means the two digits and the sign.  This
module says that a contact that is selected for a value, or deleted with all that are, does have the
value in its field, whatever special characters there are in the value.  The same goes for search
terms.

It is so for faithful values.  The comparison of the store stops at a NUL and takes three characters
for one another, and a value with such characters can select contacts that do not have it:
`Book.deleted_without_value` is an example.

Main definitions:

* `ContactBook.Operator.Finds` — **the reference**: where an operator finds a value in a text, up to
  the case of ASCII letters;
* `ContactBook.Book.Chooses` — contacts that a request lists, or deletes.

Main results:

* `ContactBook.Operator.finds_of_accepts` — a text that matches the pattern of a faithful value has
  the value in it;
* `ContactBook.Book.selected_of_chooses` — what is listed or deleted is selected;
* `ContactBook.Book.finds_of_chooses` — **chosen contacts have the value in their field**.
-/

import ContactBook.Proofs.Store.Reachable
import ContactBook.Proofs.Text.Pattern

set_option autoImplicit false

namespace ContactBook

/-! ### The reference -/

/-- The characters of a text, with capital ASCII letters made small. -/
def Text.folded (s : String) : List Char := s.toList.map Char.toLower

/-- The part of a text before its first NUL. -/
def Text.beforeNul (s : String) : String := String.ofList (Text.Pattern.untilNul s.toList)

/-- **Where an operator finds a value in a text**, up to the case of ASCII letters. -/
def Operator.Finds (operator : Operator) (value text : String) : Prop :=
  match operator with
  | .equals => Text.folded value = Text.folded text
  | .contains => Text.folded value <:+: Text.folded text
  | .startsWith => Text.folded value <+: Text.folded text
  | .endsWith => Text.folded value <:+ Text.folded text

instance (operator : Operator) (value text : String) : Decidable (operator.Finds value text) :=
  match operator with
  | .equals => inferInstanceAs (Decidable (Text.folded value = Text.folded text))
  | .contains => inferInstanceAs (Decidable (Text.folded value <:+: Text.folded text))
  | .startsWith => inferInstanceAs (Decidable (Text.folded value <+: Text.folded text))
  | .endsWith => inferInstanceAs (Decidable (Text.folded value <:+ Text.folded text))

/-! ### One text -/

@[simp] theorem Text.folded_beforeNul (s : String) :
    Text.folded (Text.beforeNul s) = (Text.Pattern.untilNul s.toList).map Char.toLower := by
  simp [Text.folded, Text.beforeNul]

theorem Text.Pattern.Faithful.nul_not_mem {value : String} (h : Faithful value) :
    '\x00' ∉ value.toList := fun hnul => h _ hnul (by decide)

/-- The comparison sees all of a faithful value. -/
theorem Text.Pattern.Faithful.compared_eq {value : String} (h : Faithful value) :
    compared value = value.toList.map seen := by
  rw [compared, untilNul_of_not_mem h.nul_not_mem]

open Text.Pattern in
/-- A text that matches the pattern of a faithful value has the value in it, before its first
NUL. -/
theorem Operator.finds_of_accepts {operator : Operator} (h : operator ≠ .equals)
    {value text : String} (hv : Faithful value)
    (haccepts : accepts (operator.bound value) text = true) :
    operator.Finds value (Text.beforeNul text) := by
  have hfolded : ∀ part : List Char, value.toList.map seen = part.map seen →
      Text.folded value = part.map Char.toLower := fun part hpart =>
    (map_toLower_eq_of_map_seen hv hpart.symm).symm
  cases operator with
  | equals => exact absurd rfl h
  | contains =>
      have hseen := accepts_containing_iff.1 haccepts
      rw [if_neg hv.nul_not_mem, hv.compared_eq, compared, List.infix_map_iff] at hseen
      obtain ⟨part, hpart, heq⟩ := hseen
      rw [Finds, Text.folded_beforeNul, hfolded part heq]
      exact hpart.map _
  | startsWith =>
      have hseen := accepts_startingWith_iff.1 haccepts
      rw [if_neg hv.nul_not_mem, hv.compared_eq, compared, List.prefix_map_iff] at hseen
      obtain ⟨part, hpart, heq⟩ := hseen
      rw [Finds, Text.folded_beforeNul, hfolded part heq]
      exact hpart.map _
  | endsWith =>
      have hseen := accepts_endingWith_iff.1 haccepts
      rw [hv.compared_eq, compared, List.suffix_map_iff] at hseen
      obtain ⟨part, hpart, heq⟩ := hseen
      rw [Finds, Text.folded_beforeNul, hfolded part heq]
      exact hpart.map _

/-- What is found before the first NUL of a text is found in the whole text, unless it has to be at
the end and the text goes on there. -/
theorem Operator.Finds.whole {operator : Operator} {value text : String}
    (hequals : operator ≠ .equals) (hend : operator = .endsWith → '\x00' ∉ text.toList)
    (h : operator.Finds value (Text.beforeNul text)) : operator.Finds value text := by
  have hprefix : Text.folded (Text.beforeNul text) <+: Text.folded text := by
    rw [Text.folded_beforeNul]
    exact (List.takeWhile_prefix _).map _
  cases operator with
  | equals => exact absurd rfl hequals
  | contains => exact h.trans hprefix.isInfix
  | startsWith => exact h.trans hprefix
  | endsWith =>
      have hall : Text.beforeNul text = text := by
        rw [Text.beforeNul, Text.Pattern.untilNul_of_not_mem (hend rfl), String.ofList_toList]
      rwa [hall] at h

/-! ### Chosen contacts -/

namespace Book

variable {b : Book} {today : Int} {tenant : String} {filter : Option Filter}
  {term : Option String} {r : Record}

/-- **Contacts that a filter and a search term choose on a day**: a listing shows them, or a request
for all matching contacts deletes them. -/
inductive Chooses (b : Book) (today : Int) (tenant : String) (filter : Option Filter)
    (term : Option String) (r : Record) : Prop
  | listed {ids : List String} (h : b.listIds today tenant filter term = .ok ids) (hid : r.id ∈ ids)
  | deleted {force : Bool}
      (h : r ∉ (b.delete today tenant ⟨.matching filter term, force⟩).2.store.contacts)

/-- A listing shows the contacts of an answer. -/
theorem selected_of_id_mem {records : List Record} (hb : b.store.Reachable)
    (hr : r ∈ b.store.contacts)
    (hrun : (Query.matching tenant filter term).run b.engine today b.store = .ok records)
    (hid : r.id ∈ records.map (·.id)) :
    (Query.matching tenant filter term).selects today b.store r = true := by
  obtain ⟨shown, hshown, hsame⟩ := List.mem_map.1 hid
  obtain ⟨hmem, hselected⟩ := (Query.mem_of_run_eq_ok hrun).1 hshown
  -- ids are unique, so the row of the answer is the contact itself
  obtain rfl : shown = r := List.inj_on_of_nodup_map hb.integrity.contact_ids hmem hr hsame
  exact hselected

/-- **What is chosen is selected.** -/
theorem selected_of_chooses (hb : b.store.Reachable) (hr : r ∈ b.store.contacts)
    (h : b.Chooses today tenant filter term r) :
    (Query.matching tenant filter term).selects today b.store r = true := by
  cases h with
  | listed h hid =>
      obtain ⟨-, hids⟩ := read_eq_ok_iff.1 h
      obtain ⟨records, hrun, rfl⟩ := Store.listIds_eq_ok_iff.1 hids
      exact selected_of_id_mem hb hr hrun hid
  | @deleted force h =>
      rw [store_delete] at h
      split at h
      · exact absurd hr h
      · cases hrun : (Query.matching tenant filter term).run b.engine today b.store with
        | error report =>
            rw [Deletion.run, Deletion.finish_matching_of_error force hrun] at h
            exact absurd hr h
        | ok records =>
            refine selected_of_id_mem hb hr hrun (Decidable.of_not_not fun hid => h ?_)
            rw [Deletion.run_matching hb.integrity.contact_ids force hrun]
            -- whichever way the request ends, a contact that is not in the answer stays
            simp only
            split
            · exact hr
            · split
              · exact hr
              · exact List.mem_filter.2 ⟨hr, by simpa using hid⟩

/-- A contact that satisfies a condition with a faithful value has the value in the field. -/
theorem finds_of_satisfies {s : Store} {field : Field} {c : Condition}
    (hoperator : c.operator ≠ .equals) (hv : Text.Pattern.Faithful c.value)
    (h : s.Satisfies today r field c) :
    ∃ text, s.Holds r field text ∧ c.operator.Finds c.value (Text.beforeNul text) := by
  obtain ⟨text, hholds, haccepts⟩ := h
  refine ⟨text, hholds, Operator.finds_of_accepts hoperator hv ?_⟩
  obtain ⟨name, operator, value⟩ := c
  cases operator with
  | equals => exact absurd rfl hoperator
  | _ =>
      cases field with
      | tags => exact haccepts
      | own column kind => cases kind <;> exact haccepts

theorem satisfies_of_passes {s : Store} {field : Field} {c : Condition} {connective : Connective}
    (hfield : Field.named? c.field = some field) (h : s.Passes today r ⟨[c], connective⟩) :
    s.Satisfies today r field c :=
  (Store.passes_singleton_iff hfield).1 h

/-- **Chosen contacts have the value in their field.**  A contact that a filter with one condition
chooses, by any operator but equality, has a text in the field that contains the faithful value of
the condition, starts with it or ends with it.  A contact that is chosen by a search term that is
not blank has a searched column that contains the term without the blanks around it. -/
theorem finds_of_chooses (hb : b.store.Reachable) (hr : r ∈ b.store.contacts)
    (h : b.Chooses today tenant filter term r) :
    (∀ c connective field, filter = some ⟨[c], connective⟩ → Field.named? c.field = some field →
      c.operator ≠ .equals → Text.Pattern.Faithful c.value →
        ∃ text, b.store.Holds r field text ∧ c.operator.Finds c.value (Text.beforeNul text) ∧
          ((c.operator = .endsWith → '\x00' ∉ text.toList) → c.operator.Finds c.value text)) ∧
      ∀ sought, term = some sought → Text.trim sought ≠ "" →
        Text.Pattern.Faithful (Text.trim sought) →
          ∃ column ∈
              [Column.firstName, .lastName, .email, .leadStatus, .title, .currentCompanyName],
            ∃ text, r.text? column = some text ∧
              Operator.contains.Finds (Text.trim sought) text := by
  have hmeans := Query.selects_matching_iff.1 (selected_of_chooses hb hr h)
  constructor
  · rintro c connective field rfl hfield hoperator hv
    obtain ⟨text, hholds, hfinds⟩ :=
      finds_of_satisfies hoperator hv (satisfies_of_passes hfield (hmeans.passes _ rfl))
    exact ⟨text, hholds, hfinds, fun hend => hfinds.whole hoperator hend⟩
  · rintro sought rfl hsought hv
    rcases hmeans.mentions sought rfl with hblank | ⟨column, hcolumn, text, htext, haccepts⟩
    · exact absurd hblank hsought
    · have hequals : Operator.contains ≠ .equals := by decide
      have hfinds := Operator.finds_of_accepts hequals hv haccepts
      exact ⟨column, hcolumn, text, htext, hfinds.whole hequals fun h => absurd h (by decide)⟩

/-- A request for the contacts whose first name starts with `AD`, and in which `A` is found, deletes
one contact.  Its first name does start so, and a searched column of it does contain the term. -/
theorem finds_of_chooses_twoOffices :
    let b : Book := { policy := .strict, store := .twoOffices }
    let c : Condition := ⟨"firstName", .startsWith, "AD"⟩
    let filter : Option Filter := some ⟨[c], .all⟩
    b.store.Reachable ∧
      (b.delete newYear "acme" ⟨.matching filter (some " A "), false⟩).1 = .ok ⟨1, 0⟩ ∧
      ∃ r ∈ b.store.contacts, r.id = "a1" ∧ b.Chooses newYear "acme" filter (some " A ") r ∧
        (∃ text, b.store.Holds r (.own .firstName .text) text ∧ c.operator.Finds c.value text) ∧
        ∃ column text, r.text? column = some text ∧ Operator.contains.Finds "A" text := by
  intro b c filter
  have hb : b.store.Reachable := Store.reachable_twoOffices
  obtain ⟨r, hr, hid⟩ : ∃ r ∈ b.store.contacts, r.id = "a1" := by decide +kernel
  have hgone : ∀ r ∈
      (b.delete newYear "acme" ⟨.matching filter (some " A "), false⟩).2.store.contacts,
      r.id ≠ "a1" := by decide +kernel
  have hchosen : b.Chooses newYear "acme" filter (some " A ") r := .deleted fun h => hgone r h hid
  obtain ⟨hfilter, hterm⟩ := finds_of_chooses hb hr hchosen
  obtain ⟨text, hholds, -, hwhole⟩ := hfilter c .all (.own .firstName .text) rfl (by decide +kernel)
    (by decide) (by decide +kernel)
  obtain ⟨column, -, found, hfound, hfinds⟩ :=
    hterm " A " rfl (by decide +kernel) (by decide +kernel)
  exact ⟨hb, by decide +kernel, r, hr, hid, hchosen,
    ⟨text, hholds, hwhole fun h => absurd h (by decide)⟩, column, found, hfound, hfinds⟩

/-- **A value that is not faithful chooses contacts that do not have it.**  No last name contains a
NUL, but a listing of the contacts whose last name does shows one, and a request deletes it. -/
theorem deleted_without_value :
    let b : Book := { policy := .strict, store := .twoOffices }
    let filter : Option Filter := some ⟨[⟨"lastName", .contains, "\x00"⟩], .all⟩
    b.store.Reachable ∧ b.listIds newYear "acme" filter none = .ok ["a2"] ∧
      (b.delete newYear "acme" ⟨.matching filter none, true⟩).1 = .ok ⟨1, 0⟩ ∧
      ∀ r ∈ b.store.contacts, ∀ text ∈ r.text? .lastName,
        ¬ Operator.contains.Finds "\x00" text := by
  intro b filter
  exact ⟨Store.reachable_twoOffices, by decide +kernel, by decide +kernel, by decide +kernel⟩

end Book

end ContactBook
