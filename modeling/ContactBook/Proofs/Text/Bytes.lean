/-
**The order of texts is the order of their bytes.**

The store orders texts by their bytes in UTF-8, and so do sorted tags.  Texts here are ordered by
their characters.  Both orders are one: of two characters the greater begins with a greater byte, or
with the same ones and then a greater byte, and this decides before either has ended.

Main results:

* `ContactBook.Text.Utf8.encode_lt_encode_iff` — **texts are ordered as their bytes are**;
* `ContactBook.Text.Utf8.toList_toUTF8` — a text's bytes are those of its characters.
-/

import ContactBook.Text.Utf8

set_option autoImplicit false

namespace ContactBook.Text.Utf8

@[simp] theorem encode_nil : encode [] = [] := rfl

@[simp] theorem encode_cons (c : Char) (cs : List Char) :
    encode (c :: cs) = String.utf8EncodeChar c ++ encode cs := by
  simp [encode]

/-- Of two bytes that stand first the lesser decides; equal ones leave it to what follows. -/
theorem byte_cons_lt_iff {n m : Nat} (hn : n < 256) (hm : m < 256) {xs ys : List UInt8} :
    UInt8.ofNat n :: xs < UInt8.ofNat m :: ys ↔ n < m ∨ n = m ∧ xs < ys := by
  rw [List.cons_lt_cons_iff, UInt8.ofNat_lt_iff_lt hn hm, ← UInt8.toNat_inj,
    UInt8.toNat_ofNat_of_lt' hn, UInt8.toNat_ofNat_of_lt' hm]

/-- The lesser of two characters decides the order of whatever they begin. -/
theorem encodeChar_append_lt {c d : Char} (h : c < d) (xs ys : List UInt8) :
    String.utf8EncodeChar c ++ xs < String.utf8EncodeChar d ++ ys := by
  have hlt : c.val.toNat < d.val.toNat := h
  have hd : d.val.toNat < 1114112 := by
    rcases d.valid with h | h <;> omega
  unfold String.utf8EncodeChar
  dsimp only
  generalize c.val.toNat = n at hlt ⊢
  generalize d.val.toNat = m at hlt hd ⊢
  -- the quotients are taken one out of the other, so that each byte is a digit to the base of 64
  have hdiv : ∀ k : Nat, k / 4096 = k / 64 / 64 ∧ k / 262144 = k / 64 / 64 / 64 :=
    fun k => ⟨by omega, by omega⟩
  simp only [fun k => (hdiv k).1, fun k => (hdiv k).2]
  -- a case for each number of bytes of the one and of the other
  repeat' split
  all_goals
    simp (disch := omega) only [List.cons_append, List.nil_append, byte_cons_lt_iff]
    omega

/-- The greater of two texts has the greater bytes. -/
theorem encode_lt_encode {cs ds : List Char} (h : cs < ds) : encode cs < encode ds := by
  induction h with
  | @nil d ds =>
      rw [encode_nil, encode_cons]
      cases hbytes : String.utf8EncodeChar d with
      | nil =>
          have hlength := String.length_utf8EncodeChar d
          have hpos := Char.utf8Size_pos d
          rw [hbytes, List.length_nil] at hlength
          omega
      | cons b bs => exact List.Lex.nil
  | rel h =>
      rw [encode_cons, encode_cons]
      exact encodeChar_append_lt h _ _
  | cons h ih =>
      rw [encode_cons, encode_cons]
      exact List.append_left_lt ih

/-- **Texts are ordered as their bytes are.** -/
theorem encode_lt_encode_iff {cs ds : List Char} : encode cs < encode ds ↔ cs < ds := by
  refine ⟨fun h => ?_, encode_lt_encode⟩
  by_cases hlt : cs < ds
  · exact hlt
  · rcases List.le_iff_lt_or_eq.1 (List.not_lt.1 hlt) with hgt | rfl
    · exact absurd h (List.lt_asymm (encode_lt_encode hgt))
    · exact absurd h (List.lt_irrefl _)

theorem encode_le_encode_iff {cs ds : List Char} : encode cs ≤ encode ds ↔ ¬ ds < cs := by
  rw [← List.not_lt, encode_lt_encode_iff]

/-- A byte below those of longer characters is a character. -/
theorem mem_of_byte_mem_encode {c : Char} {cs : List Char} (hc : c.val.toNat < 128)
    (h : UInt8.ofNat c.val.toNat ∈ encode cs) : c ∈ cs := by
  obtain ⟨d, hd, hbyte⟩ := List.mem_flatMap.1 h
  have heq : c.val.toNat = d.val.toNat := by
    unfold String.utf8EncodeChar at hbyte
    dsimp only at hbyte
    repeat' split at hbyte
    all_goals
      simp only [List.mem_cons, List.not_mem_nil, or_false, ← UInt8.toNat_inj,
        UInt8.toNat_ofNat'] at hbyte
      omega
  rwa [Char.ext (UInt32.toNat_inj.1 heq)]

/-! ### Bytes in an array -/

/-- The bytes of an array from a place on, behind those before. -/
theorem toList_loop (bytes : ByteArray) (start : Nat) (before : List UInt8) :
    ByteArray.toList.loop bytes start before =
      before.reverse ++ bytes.data.toList.drop start := by
  induction start, before using ByteArray.toList.loop.induct bytes with
  | case1 start before h ih =>
      have hsize : start < bytes.data.size := h
      have hlength : start < bytes.data.toList.length := h
      have hbyte : bytes.get! start = bytes.data.toList[start] := by
        simp [ByteArray.get!, getElem!_pos bytes.data start hsize]
      rw [ByteArray.toList.loop, if_pos h, ih, List.drop_eq_getElem_cons hlength, hbyte]
      simp
  | case2 start before h =>
      have hlength : bytes.data.toList.length ≤ start := Nat.le_of_not_lt h
      rw [ByteArray.toList.loop, if_neg h, List.drop_eq_nil_of_le hlength, List.append_nil]

/-- The bytes of a text are those of its characters. -/
theorem toList_toUTF8 (text : String) : text.toUTF8.toList = encode text.toList := by
  have hdata : text.toUTF8.data.toList = encode text.toList := by
    obtain ⟨cs, rfl⟩ : ∃ cs, text = String.ofList cs := ⟨text.toList, String.ofList_toList.symm⟩
    simp [encode, String.toByteArray_ofList, List.utf8Encode]
  rw [ByteArray.toList, toList_loop, List.reverse_nil, List.nil_append, List.drop_zero, hdata]

end ContactBook.Text.Utf8
