/-
**Attached data comes back as it was.**

Data of any shape is attached to a contact as a JSON text, and a listing reads the text again.  What
is read is the value that was attached, down to the last character of its strings, so that nothing
is mistaken for missing; and the status that a listing shows beside the attributes is the one in the
data, unless it is `null`.

Conditions compare with the text of a value, which for anything but a string is its JSON text.  So
different values are different texts, and it makes no difference for a condition how a value was
spelled in the filter: with which spaces, in which order of members, with members that are
overridden or with escapes in strings.

Main definition:

* `ContactBook.Json.Value.IsKept` — the values that a text keeps.

Main results:

* `ContactBook.Json.Value.IsKept.parse_render`, `IsKept.eq_of_plain_eq` — **such a value is read
  from its text, and no two have one text**;
* `ContactBook.statusOf?_eq_some_iff` — the status in data;
* `ContactBook.Book.data_kept` — **what listings show of data that was attached**, and how values
  and their texts belong together.
-/

import ContactBook.Filter.Policy
import ContactBook.Proofs.Json.Written
import ContactBook.Proofs.Query.Added

set_option autoImplicit false

namespace ContactBook

/-! ### Values and texts -/

namespace Json.Value

/-- **The values that a text keeps**: numbers are whole and fit 64 bits, the members of objects
ascend as in all objects that are read, and brackets nest as deep as the reader goes. -/
structure IsKept (v : Value) : Prop where
  isWhole : v.isWhole
  isSorted : v.isSorted
  depth_le : v.depth ≤ greatestDepth

theorem isKept_iff {v : Value} :
    v.IsKept ↔ v.isWhole ∧ v.isSorted ∧ v.depth ≤ greatestDepth :=
  ⟨fun h => ⟨h.isWhole, h.isSorted, h.depth_le⟩, fun h => ⟨h.1, h.2.1, h.2.2⟩⟩

instance (v : Value) : Decidable v.IsKept := decidable_of_iff _ isKept_iff.symm

variable {v w : Value}

/-- **Such a value is read from its JSON text.** -/
theorem IsKept.parse_render (h : v.IsKept) : parse v.render = .ok v :=
  Json.parse_render h.isWhole h.depth_le h.isSorted

theorem plain_eq_render (h : ∀ s, v ≠ .string s) : v.plain = v.render := by
  cases v with
  | string s => exact absurd rfl (h s)
  | null | bool _ | number _ | array _ | object _ => rfl

/-- Such a value is read from the text that it counts as, unless it is a string. -/
theorem IsKept.parse_plain (h : v.IsKept) (hv : ∀ s, v ≠ .string s) : parse v.plain = .ok v := by
  rw [plain_eq_render hv, h.parse_render]

/-- **No two of them count as one text**, strings aside. -/
theorem IsKept.eq_of_plain_eq (hv : v.IsKept) (hw : w.IsKept) (hvs : ∀ s, v ≠ .string s)
    (hws : ∀ s, w ≠ .string s) (h : v.plain = w.plain) : v = w := by
  have hread := hw.parse_plain hws
  rw [← h, hv.parse_plain hvs] at hread
  exact Except.ok.inj hread

/-- Texts that spell one value up to the order of members and to members that are overridden are
read as one value. -/
theorem Alike.parse_eq (h : v.Alike w) (hv : v.isWhole ∧ v.depth ≤ greatestDepth)
    (hw : w.isWhole ∧ w.depth ≤ greatestDepth) {text text' : String}
    (htext : Padded v.SpelledBy text.toList) (htext' : Padded w.SpelledBy text'.toList) :
    parse text = .ok v.normal ∧ parse text' = .ok v.normal := by
  rw [parse_spelled hv.1 hv.2 htext, parse_spelled hw.1 hw.2 htext', h.normal_eq]
  exact ⟨rfl, rfl⟩

end Json.Value

/-! ### Listings -/

/-- The status in data is its member of that name, unless this is `null`. -/
theorem statusOf?_eq_some_iff {data v : Json.Value} (h : data.isSorted) :
    statusOf? (some data) = some v ↔
      v ≠ .null ∧ ∃ members, data = .object members ∧ ("status", v) ∈ members := by
  have hnull : v.isNull = false ↔ v ≠ .null := by cases v <;> simp [Json.Value.isNull]
  cases data with
  | object members =>
      have hmember : (Json.Value.object members).member? "status" = some v ↔
          ("status", v) ∈ members :=
        Json.Value.member?_object_eq_some_iff (Json.Value.isSorted_object_iff.1 h).1
      simp [statusOf?, Option.filter_eq_some_iff, hmember, hnull, and_comm]
  | null | bool _ | number _ | string _ | array _ => simp [statusOf?, Json.Value.member?]

namespace Store

variable {s s' : Store} {tenant : String} {draft : Draft} {now : Calendar.Instant}

/-- The contact that was added is the only one with its id, so whatever is listed under that id is
what the draft says. -/
theorem ofRecord_added (hs : s.addContact tenant draft now = .ok s')
    (hdraft : draft.IsReadable now) {r : Record} (hr : r ∈ s'.contacts) (hid : r.id = draft.id)
    {tagNames : List String} {c : Contact} (hc : Contact.ofRecord r tagNames = .ok c) :
    c = draft.contact tenant now (sorted tagNames) := by
  obtain ⟨hnew, rfl⟩ := addContact_eq_ok_iff.1 hs
  have hrecord : r = draft.record tenant now := by
    rcases List.mem_append.1 hr with hr | hr
    · have hthere := hasContact_iff.2 ⟨r, hr, hid⟩
      exact absurd (hnew.symm.trans hthere) Bool.false_ne_true
    · exact List.mem_singleton.1 hr
  rw [hrecord, Contact.ofRecord_record hdraft] at hc
  exact (Except.ok.inj hc).symm

end Store

namespace Book

/-- A contact is only added while the book is open, and the store allows it. -/
theorem addContact_ok {b left : Book} {tenant : String} {draft : Draft} {now : Calendar.Instant}
    (h : b.addContact tenant draft now = (.ok (), left)) :
    b.locked = false ∧ left = { b with store := left.store } ∧
      b.store.addContact tenant draft now = .ok left.store := by
  rw [addContact_eq] at h
  split at h
  · exact nomatch (Prod.mk.inj h).1
  next hopen =>
    split at h
    · exact nomatch (Prod.mk.inj h).1
    next hnew =>
      obtain rfl := (Prod.mk.inj h).2
      have hopen := Bool.eq_false_iff.2 hopen
      exact ⟨hopen, rfl, Store.addContact_eq_ok_iff.2 ⟨Bool.eq_false_iff.2 hnew, rfl⟩⟩

/-- **Attached data comes back as it was, and the text of a value stands for the value.**

Calls led to a store, and a contact is added to it with data that a text keeps.  Whoever could list
the organisation before can do so afterwards, on any day, and sees the contact; and wherever a
listing shows it, it shows the data that was attached, with the status that is in it and is not
`null`.

Values that a text keeps, strings aside, are read from the texts that they count as, and different
ones count as different texts.  Texts that spell one value, up to spaces, escapes, the order of
members and members that are overridden, are read and count as one text. -/
theorem data_kept :
    (∀ {b left : Book} {tenant : String} {draft : Draft} {now : Calendar.Instant}
        {data : Json.Value},
      b.store.Reachable → (draft.createdAt.getD now).IsValid →
      (∀ x ∈ draft.lastActivityAt, x.IsValid) → draft.additionalData = some data → data.IsKept →
      b.addContact tenant draft now = (.ok (), left) →
      (∀ shown contacts, b.list shown tenant none none = .ok contacts →
        ∀ today, ∃ contacts', left.list today tenant none none = .ok contacts' ∧
          ∃ c ∈ contacts', c.id = draft.id) ∧
      ∀ today asking filter term contacts, left.list today asking filter term = .ok contacts →
        ∀ c ∈ contacts, c.id = draft.id → c.additionalData = some data ∧
          ∀ v, c.status = some v ↔
            v ≠ .null ∧ ∃ members, data = .object members ∧ ("status", v) ∈ members) ∧
    (∀ v : Json.Value, v.IsKept → (∀ s, v ≠ .string s) → Json.parse v.plain = .ok v) ∧
    (∀ v w : Json.Value, v.IsKept → w.IsKept → (∀ s, v ≠ .string s) → (∀ s, w ≠ .string s) →
      v.plain = w.plain → v = w) ∧
    ∀ (v w : Json.Value) (text text' : String), v.Alike w →
      v.isWhole ∧ v.depth ≤ Json.greatestDepth → w.isWhole ∧ w.depth ≤ Json.greatestDepth →
      Json.Padded v.SpelledBy text.toList → Json.Padded w.SpelledBy text'.toList →
        ∃ plain, (Json.parse text).map Json.Value.plain = .ok plain ∧
          (Json.parse text').map Json.Value.plain = .ok plain := by
  refine ⟨?listed, fun v hv hvs => hv.parse_plain hvs,
    fun v w hv hw hvs hws h => hv.eq_of_plain_eq hw hvs hws h, ?spelled⟩
  case spelled =>
    intro v w text text' h hv hw htext htext'
    obtain ⟨hparse, hparse'⟩ := h.parse_eq hv hw htext htext'
    exact ⟨v.normal.plain, by rw [hparse]; rfl, by rw [hparse']; rfl⟩
  case listed =>
    intro b left tenant draft now data hb hcreated hactive hdata hkept hadded
    have hdraft : draft.IsReadable now := by
      refine ⟨hcreated, hactive, fun v hv => ?_⟩
      obtain rfl : data = v := Option.some.inj (hdata.symm.trans hv)
      exact hkept.parse_render
    obtain ⟨hopen, hleft, hs⟩ := addContact_ok hadded
    refine ⟨fun shown contacts hlist today => ?_,
      fun today asking filter term contacts hlist c hc hid => ?_⟩
    · obtain ⟨before, after, rfl, hlist'⟩ :=
        Store.list_addContact hb.integrity hdraft hs (read_eq_ok_iff.1 hlist).2 today
      refine ⟨before ++ draft.contact tenant now [] :: after, ?_, draft.contact tenant now [],
        by simp, rfl⟩
      rw [hleft]
      exact read_eq_ok_iff.2 ⟨hopen, hlist'⟩
    · obtain ⟨records, hrun, hread⟩ := Store.list_eq_ok_iff.1 (read_eq_ok_iff.1 hlist).2
      obtain ⟨r, hr, hc⟩ := (mem_of_mapM_eq_ok hread c).1 hc
      have hsame := Store.ofRecord_added hs hdraft ((Query.mem_of_run_eq_ok hrun).1 hr).1
        ((Store.id_of_ofRecord hc).symm.trans hid) hc
      rw [hsame]
      change draft.additionalData = _ ∧ ∀ v, statusOf? draft.additionalData = some v ↔ _
      rw [hdata]
      exact ⟨rfl, fun v => statusOf?_eq_some_iff hkept.isSorted⟩

/-- Data with a control character, a quote, a character behind the first 65536 and the greatest and
the least number; and a text with a member that is overridden, spaces and a pair of escapes. -/
theorem data_kept_twoOffices :
    let b : Book := { policy := .lenient, store := .twoOffices }
    let notes : Json.Value := .array [.string "\x00\"😀", .number (.integer 18446744073709551615),
      .number (.integer (-9223372036854775808))]
    let data : Json.Value := .object [("notes", notes), ("status", .bool false)]
    let draft : Draft := { id := "a4", additionalData := some data }
    let now : Calendar.Instant := ⟨newYear, 0, 0⟩
    let v : Json.Value := .object [("mood", .null), ("mood", .string "😀")]
    let w : Json.Value := .object [("mood", .string "😀")]
    let text := "\x7b\"mood\":null, \"mood\":\"\\uD83D\\ude00\"\x7d"
    b.store.Reachable ∧ data.IsKept ∧
      (∃ left contacts, b.addContact "acme" draft now = (.ok (), left) ∧
        left.list newYear "acme" none none = .ok contacts ∧
        ∃ c ∈ contacts, c.id = "a4" ∧ c.additionalData = some data ∧
          c.status = some (.bool false)) ∧
      Json.parse data.plain = .ok data ∧ (notes.plain = data.plain → notes = data) ∧
      v.Alike w ∧ Json.Padded v.SpelledBy text.toList ∧
      ∃ plain, (Json.parse text).map Json.Value.plain = .ok plain ∧
        (Json.parse w.render).map Json.Value.plain = .ok plain := by
  intro b notes data draft now v w text
  obtain ⟨hlisted, hparse, hinjective, hspelled⟩ := data_kept
  have hb : b.store.Reachable := Store.reachable_twoOffices
  have hkept : data.IsKept := by decide +kernel
  have hnotes : notes.IsKept := by decide +kernel
  have hadded : ∃ left, b.addContact "acme" draft now = (.ok (), left) := ⟨_, rfl⟩
  obtain ⟨left, hadded⟩ := hadded
  obtain ⟨contacts, hcontacts⟩ := Store.exists_list_ofTenant Store.dated_twoOffices b.engine newYear
    "acme"
  obtain ⟨hlist, hshown⟩ := hlisted hb (by decide +kernel) (by decide +kernel) rfl hkept hadded
  obtain ⟨contacts', hlist', c, hc, hid⟩ :=
    hlist newYear contacts (read_eq_ok_iff.2 ⟨rfl, hcontacts⟩) newYear
  obtain ⟨hdata, hstatus⟩ := hshown _ _ _ _ _ hlist' c hc hid
  have halike : v.Alike w := .overridden [] [("mood", .string "😀")] List.mem_cons_self rfl
  have htext : Json.Padded v.SpelledBy text.toList := by
    have hname := Json.spellsString_quotedChars "mood".toList
    -- the two halves of the pair, in capital and in small digits
    have hhigh : Json.SpellsUnit (0xD800 + 0x3D) ['D', '8', '3', 'D'] :=
      .digits (n := 13) (m := 8) (k := 3) (l := 13) (by decide) (by decide) (by decide) (by decide)
    have hlow : Json.SpellsUnit (0xDC00 + 0x200) ['d', 'e', '0', '0'] :=
      .digits (n := 13) (m := 14) (k := 0) (l := 0) (by decide) (by decide) (by decide) (by decide)
    have hface : Json.SpellsString ['😀'] _ :=
      ⟨_, .cons (.pair (by decide) (by decide) (by decide) hhigh hlow) .nil, rfl⟩
    have hfirst : Json.MemberSpelledBy ("mood", .null) _ :=
      ⟨_, _, Json.padded_of hname, Json.padded_of rfl, rfl⟩
    have hsecond : Json.MemberSpelledBy ("mood", .string "😀") _ :=
      ⟨_, _, ⟨[' '], _, [], by decide, hname, Json.spaces_nil, rfl⟩, Json.padded_of hface, rfl⟩
    have hobject : v.SpelledBy _ := ⟨_, _, hfirst, ⟨_, ['\x7d'], hsecond, rfl, rfl⟩, rfl⟩
    exact ⟨[], _, [], Json.spaces_nil, hobject, Json.spaces_nil, by decide +kernel⟩
  have htext' : Json.Padded w.SpelledBy w.render.toList := by
    rw [Json.Value.toList_render]
    exact Json.padded_of w.spelledBy_chars
  refine ⟨hb, hkept, ⟨left, contacts', hadded, hlist', c, hc, hid, hdata, ?_⟩,
    hparse data hkept nofun, hinjective notes data hnotes hkept nofun nofun, halike, htext,
    hspelled v w _ _ halike (by decide +kernel) (by decide +kernel) htext htext'⟩
  exact (hstatus (.bool false)).2 ⟨nofun, _, rfl, by simp⟩

end Book

end ContactBook
