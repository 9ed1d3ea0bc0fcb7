/-
**Decoding a value looks no further than the value.**

A decoder works within limits, and one of them is the size of the whole text.  This module proves of
the decoders for lists, records, alternatives and values of any shape that what they read they read
by itself, if the decoders do that they are made of: the limit of size is none that a text could
reach.

From this follows what is wanted of whole texts: blanks around a record do not matter, whatever
their kind, as long as the record is read at all.  A record ends with its bracket, so that nothing
of it is lost when blanks are cut off.

Main definition:

* `ContactBook.Json.Decoder.IsLocal` — a decoder that reads by itself whatever it reads.

Main results:

* `ContactBook.Json.readItems_takes`, `readMembers_takes` — the two loops;
* `ContactBook.Json.Decoder.record_takes` — a record is read by itself and ends with a bracket;
* `ContactBook.Json.decode_record_trim` — **blanks around a record do not matter**.
-/

import ContactBook.Json.Decoder
import ContactBook.Proofs.Json.Skipping
import ContactBook.Text.Blank
import Mathlib.Data.List.DropRight

set_option autoImplicit false

namespace ContactBook.Json

/-! ### Lists -/

section

variable {cs rest : List Char} {first : Bool}

theorem nextItem_closed (h : nextItem first cs = .ok (.closed rest)) :
    ∃ w, cs = w ++ ']' :: rest ∧ ∀ q, nextItem first (w ++ ']' :: q) = .ok (.closed q) := by
  unfold nextItem at h
  split at h
  · exact nomatch h
  next c after hskip =>
    obtain ⟨w, rfl, hw⟩ := skipSpace_eq_cons hskip
    split at h
    next hc =>
      obtain rfl := beq_iff_eq.1 hc
      obtain rfl := Next.closed.inj (Except.ok.inj h)
      exact ⟨w, rfl, fun q => by simp [nextItem, hw]⟩
    · split at h
      · exact nomatch h
      · split at h
        · split at h
          · exact nomatch h
          · split at h <;> exact nomatch h
        · exact nomatch h

/-- The next item is looked at, but not read; its first character decides that it is there. -/
theorem nextItem_more (h : nextItem first cs = .ok (.more rest)) :
    ∃ w c after, rest = c :: after ∧ cs = w ++ rest ∧
      ∀ q, nextItem first (w ++ c :: q) = .ok (.more (c :: q)) := by
  unfold nextItem at h
  split at h
  · exact nomatch h
  next c after hskip =>
    obtain ⟨w, rfl, hw⟩ := skipSpace_eq_cons hskip
    split at h
    · exact nomatch h
    next hc =>
      split at h
      next hfirst =>
        obtain rfl := Next.more.inj (Except.ok.inj h)
        exact ⟨w, c, after, rfl, rfl, fun q => by simp [nextItem, hw, hc, hfirst]⟩
      next hfirst =>
        split at h
        next hcomma =>
          obtain rfl := beq_iff_eq.1 hcomma
          split at h
          · exact nomatch h
          next d after' hskip' =>
            obtain ⟨w', rfl, hw'⟩ := skipSpace_eq_cons hskip'
            split at h
            · exact nomatch h
            next hd =>
              obtain rfl := Next.more.inj (Except.ok.inj h)
              refine ⟨w ++ ',' :: w', d, after', rfl, by simp, fun q => ?_⟩
              simp [nextItem, hw, hw', hfirst, hd]
        · exact nomatch h

theorem endList_eq_ok (h : endList cs = .ok rest) :
    ∃ w, cs = w ++ ']' :: rest ∧ ∀ q, endList (w ++ ']' :: q) = .ok q := by
  unfold endList at h
  split at h
  · exact nomatch h
  next c after hskip =>
    obtain ⟨w, rfl, hw⟩ := skipSpace_eq_cons hskip
    split at h
    next hc =>
      obtain rfl := beq_iff_eq.1 hc
      obtain rfl := Except.ok.inj h
      exact ⟨w, rfl, fun q => by simp [endList, hw]⟩
    · split at h
      · split at h <;> exact nomatch h
      · exact nomatch h

end

section

variable {α : Type} {size : Nat} {cs rest : List Char}

/-- **The items of a list are read by themselves** if each of them is, and in no more steps than
there are characters: an item has some character. -/
theorem readItems_takes {item : Nat → List Char → Read α} (hitem : Local item) {fuel index : Nat}
    {acc as : List α} (h : readItems (item size) fuel index acc cs = .ok (as, rest)) :
    ∃ piece, cs = piece ++ ']' :: rest ∧ ∀ q size' fuel', q <+: rest →
      (piece ++ ']' :: q).length ≤ size' → piece.length < fuel' →
      readItems (item size') fuel' index acc (piece ++ ']' :: q) = .ok (as, q) := by
  induction fuel generalizing index acc cs with
  | zero => exact nomatch h
  | succ fuel ih =>
      rw [readItems] at h
      split at h
      · exact nomatch h
      next after hclosed =>
        obtain ⟨rfl, rfl⟩ := Prod.mk.inj (Except.ok.inj h)
        obtain ⟨w, rfl, hw⟩ := nextItem_closed hclosed
        refine ⟨w, rfl, ?_⟩
        rintro q size' (_ | fuel') _ _ hfuel
        · exact absurd hfuel (Nat.not_lt_zero _)
        · rw [readItems, hw]
      next after hmore =>
        obtain ⟨w, c, after', rfl, rfl, hw⟩ := nextItem_more hmore
        split at h
        · exact nomatch h
        next a after'' ha =>
          obtain ⟨piece₁, hne, hpiece, htakes⟩ := hitem _ _ _ _ ha
          obtain ⟨piece₂, rfl, hread⟩ := ih h
          -- the item has a character, so that one step is left for each further item
          obtain ⟨tail, rfl, rfl⟩ := exists_tail_of_cons_eq_append hpiece hne
          refine ⟨w ++ c :: (tail ++ piece₂), by simp, ?_⟩
          rintro q size' (_ | fuel') hq hsize hfuel
          · exact absurd hfuel (Nat.not_lt_zero _)
          simp only [List.length_append, List.length_cons] at hsize hfuel
          have h₁ := htakes _ size' (append_cons_begins hq piece₂ ']')
            (by simp only [List.length_append, List.length_cons]; omega)
          have h₂ := hread q size' fuel' hq
            (by simp only [List.length_append, List.length_cons]; omega) (by omega)
          rw [List.cons_append] at h₁
          rw [List.append_assoc, List.cons_append, List.append_assoc, readItems, hw]
          simp only [h₁]
          exact h₂

/-! ### Objects -/

theorem nextMember_closed {first : Bool} (h : nextMember first cs = .ok (.closed rest)) :
    ∃ w, cs = w ++ '}' :: rest ∧ ∀ q, nextMember first (w ++ '}' :: q) = .ok (.closed q) := by
  unfold nextMember at h
  split at h
  · exact nomatch h
  next c after hskip =>
    obtain ⟨w, rfl, hw⟩ := skipSpace_eq_cons hskip
    split at h
    next hc =>
      obtain rfl := beq_iff_eq.1 hc
      obtain rfl := Next.closed.inj (Except.ok.inj h)
      exact ⟨w, rfl, fun q => by simp [nextMember, hw]⟩
    · split at h
      · split at h <;> exact nomatch h
      · split at h
        · split at h
          · exact nomatch h
          · split at h
            · exact nomatch h
            · split at h <;> exact nomatch h
        · exact nomatch h

theorem nextMember_more {first : Bool} (h : nextMember first cs = .ok (.more rest)) :
    ∃ w, cs = w ++ '"' :: rest ∧ ∀ q, nextMember first (w ++ '"' :: q) = .ok (.more q) := by
  unfold nextMember at h
  split at h
  · exact nomatch h
  next c after hskip =>
    obtain ⟨w, rfl, hw⟩ := skipSpace_eq_cons hskip
    split at h
    · exact nomatch h
    · split at h
      next hfirst =>
        split at h
        next hc =>
          obtain rfl := beq_iff_eq.1 hc
          obtain rfl := Next.more.inj (Except.ok.inj h)
          exact ⟨w, rfl, fun q => by simp [nextMember, hw, hfirst]⟩
        · exact nomatch h
      next hfirst =>
        split at h
        next hcomma =>
          obtain rfl := beq_iff_eq.1 hcomma
          split at h
          · exact nomatch h
          next d after' hskip' =>
            obtain ⟨w', rfl, hw'⟩ := skipSpace_eq_cons hskip'
            split at h
            next hd =>
              obtain rfl := beq_iff_eq.1 hd
              obtain rfl := Next.more.inj (Except.ok.inj h)
              refine ⟨w ++ ',' :: w', by simp, fun q => ?_⟩
              simp [nextMember, hw, hw', hfirst]
            · split at h <;> exact nomatch h
        · exact nomatch h

theorem readColon_eq_ok (h : readColon cs = .ok rest) :
    ∃ w, cs = w ++ ':' :: rest ∧ ∀ q, readColon (w ++ ':' :: q) = .ok q := by
  unfold readColon at h
  split at h
  · exact nomatch h
  next c after hskip =>
    obtain ⟨w, rfl, hw⟩ := skipSpace_eq_cons hskip
    split at h
    next hc =>
      obtain rfl := beq_iff_eq.1 hc
      obtain rfl := Except.ok.inj h
      exact ⟨w, rfl, fun q => by simp [readColon, hw]⟩
    · exact nomatch h

/-- **The members of an object are read by themselves** if each of them is. -/
theorem readMembers_takes {σ : Type} {member : Nat → String → σ → List Char → Read σ}
    (hmember : ∀ name state, Local fun size => member size name state) {fuel : Nat} {first : Bool}
    {state state' : σ}
    (h : readMembers size (member size) fuel first state cs = .ok (state', rest)) :
    ∃ piece, cs = piece ++ '}' :: rest ∧ ∀ q size' fuel', q <+: rest →
      (piece ++ '}' :: q).length ≤ size' → piece.length < fuel' →
      readMembers size' (member size') fuel' first state (piece ++ '}' :: q) = .ok (state', q) := by
  induction fuel generalizing first state cs with
  | zero => exact nomatch h
  | succ fuel ih =>
      rw [readMembers] at h
      split at h
      · exact nomatch h
      next after hclosed =>
        obtain ⟨rfl, rfl⟩ := Prod.mk.inj (Except.ok.inj h)
        obtain ⟨w, rfl, hw⟩ := nextMember_closed hclosed
        refine ⟨w, rfl, ?_⟩
        rintro q size' (_ | fuel') _ _ hfuel
        · exact absurd hfuel (Nat.not_lt_zero _)
        · rw [readMembers, hw]
      next after hmore =>
        obtain ⟨w, rfl, hw⟩ := nextMember_more hmore
        split at h
        · exact nomatch h
        next name after₁ hname =>
          split at h
          · exact nomatch h
          next state₁ after₂ hvalue =>
            obtain ⟨piece₁, -, rfl, htakes₁⟩ := readString_local _ _ _ _ hname
            obtain ⟨piece₂, -, rfl, htakes₂⟩ := hmember _ _ _ _ _ _ hvalue
            obtain ⟨piece₃, rfl, hread⟩ := ih h
            refine ⟨w ++ '"' :: (piece₁ ++ (piece₂ ++ piece₃)), by simp, ?_⟩
            rintro q size' (_ | fuel') hq hsize hfuel
            · exact absurd hfuel (Nat.not_lt_zero _)
            simp only [List.length_append, List.length_cons] at hsize hfuel
            have hq₃ := append_cons_begins hq piece₃ '}'
            have h₁ := htakes₁ _ size' ((List.prefix_append_right_inj piece₂).2 hq₃)
              (by simp only [List.length_append, List.length_cons]; omega)
            have h₂ := htakes₂ _ size' hq₃
              (by simp only [List.length_append, List.length_cons]; omega)
            have h₃ := hread q size' fuel' hq
              (by simp only [List.length_append, List.length_cons]; omega) (by omega)
            simp only at h₂
            simp only [List.append_assoc, List.cons_append, readMembers, hw, h₁, h₂, h₃]

theorem readMemberValue_local {value : Nat → List Char → Read α} (hvalue : Local value)
    (name : String) : Local fun size => readMemberValue name (value size) := by
  intro size cs a rest h
  simp only [readMemberValue] at h
  split at h
  · exact nomatch h
  next after hcolon =>
    obtain ⟨w, rfl, hw⟩ := readColon_eq_ok hcolon
    cases hread : value size after with
    | error failure => rw [hread] at h; exact nomatch h
    | ok found =>
        rw [hread] at h
        obtain rfl := Except.ok.inj h
        obtain ⟨piece, -, rfl, htakes⟩ := hvalue _ _ _ _ hread
        refine takes_behind (P := fun size cs q =>
          readMemberValue name (value size) cs = .ok (a, q)) ⟨piece, rfl, ?_⟩
        intro q size' hq hsize
        simp only [readMemberValue, hw, htakes q size' hq hsize, Except.mapError]

/-- Reads a value that nobody asked for. -/
def passOver (size : Nat) (cs : List Char) : Read Unit :=
  ((skipValue size cs).mapError Failure.ofSyntax).map ((), ·)

theorem passOver_local : Local passOver := by
  intro size cs _ rest h
  obtain ⟨after, hskip, heq⟩ := map_eq_ok_iff.1 h
  obtain ⟨-, rfl⟩ := Prod.mk.inj heq
  cases hread : skipValue size cs with
  | error fault => rw [hread] at hskip; exact nomatch hskip
  | ok rest =>
      rw [hread] at hskip
      obtain rfl := Except.ok.inj hskip
      obtain ⟨piece, hne, rfl, htakes⟩ := skipValue_takes hread
      exact ⟨piece, hne, rfl, fun q size' hq hsize => by
        rw [passOver, htakes q size' hq hsize]
        rfl⟩

/-! ### Values of any shape -/

/-- What stands in brackets is read by itself, from the opening bracket to the closing one. -/
theorem bracketed_takes (read body : Nat → List Char → Read α) {closing : Char} {a : α}
    {o : Opening} (hopening : opening size cs = .ok o)
    (hread : ∀ size' cs' q, opening size' cs' = .ok (o.before q) → read size' cs' = body size' q)
    (hbody : ∃ piece, o.rest = piece ++ closing :: rest ∧ ∀ q size', q <+: rest →
      (piece ++ closing :: q).length ≤ size' → body size' (piece ++ closing :: q) = .ok (a, q)) :
    ∃ piece, cs = piece ++ closing :: rest ∧ Takes read (piece ++ [closing]) a rest := by
  obtain ⟨piece₁, -, rfl, htakes⟩ := opening_takes hopening
  obtain ⟨piece₂, hrest, hbody⟩ := hbody
  refine ⟨piece₁ ++ piece₂, by simp [hrest], fun q size' hq hsize => ?_⟩
  simp only [List.append_assoc, List.cons_append, List.nil_append, List.length_append,
    List.length_cons] at hsize ⊢
  have hprefix : piece₂ ++ closing :: q <+: o.rest := by
    rw [hrest]
    exact append_cons_begins hq piece₂ closing
  rw [hread size' _ _ (htakes _ size' hprefix (by
    simp only [List.length_append, List.length_cons]
    omega))]
  exact hbody q size' hq (by simp only [List.length_append, List.length_cons]; omega)

end

theorem readValueWith_local (inner : Option (Nat → List Char → Read Value))
    (hinner : ∀ read ∈ inner, Local read) :
    Local fun size => readValueWith size (inner.map fun read => read size) := by
  intro size cs v rest h
  simp only [readValueWith] at h
  split at h
  · exact nomatch h
  next v' after hopening =>
    obtain ⟨rfl, rfl⟩ := Prod.mk.inj (Except.ok.inj h)
    obtain ⟨piece, hne, rfl, htakes⟩ := opening_takes hopening
    refine ⟨piece, hne, rfl, fun q size' hq hsize => ?_⟩
    simp only [readValueWith, htakes q size' hq hsize, Opening.before]
  next after hopening =>
    cases inner with
    | none => exact nomatch h
    | some read =>
        obtain ⟨⟨items, rest⟩, hitems, heq⟩ := map_eq_ok_iff.1 h
        obtain ⟨rfl, rfl⟩ := Prod.mk.inj heq
        obtain ⟨piece, rfl, hread⟩ := readItems_takes (hinner read rfl) hitems
        obtain ⟨piece, rfl, htakes⟩ := bracketed_takes (a := Value.array items)
          (fun size => readValueWith size (some (read size)))
          (fun size q => (readItems (read size) (size + 1) 0 [] q).map fun x =>
            (Value.array x.1, x.2)) hopening
          (fun size' cs' q hopen => by simp only [readValueWith, hopen]; rfl)
          ⟨piece, rfl, fun q size' hq hsize => by
            simp only [List.length_append, List.length_cons] at hsize
            rw [hread q size' (size' + 1) hq (by simpa using hsize) (by omega)]
            rfl⟩
        exact ⟨piece ++ [']'], by simp, by simp, htakes⟩
  next after hopening =>
    cases inner with
    | none => exact nomatch h
    | some read =>
        have hmember : ∀ name members, Local fun size cs =>
            (readMemberValue name (read size) cs).map fun x => (Value.put name x.1 members, x.2) :=
          fun name members =>
            (readMemberValue_local (hinner read rfl) name).map fun v => Value.put name v members
        obtain ⟨⟨members, rest⟩, hmembers, heq⟩ := map_eq_ok_iff.1 h
        obtain ⟨rfl, rfl⟩ := Prod.mk.inj heq
        obtain ⟨piece, rfl, hread⟩ := readMembers_takes hmember hmembers
        obtain ⟨piece, rfl, htakes⟩ := bracketed_takes (a := Value.object members)
          (fun size => readValueWith size (some (read size)))
          (fun size q => (readMembers size (fun name members cs =>
            (readMemberValue name (read size) cs).map fun x => (Value.put name x.1 members, x.2))
            (size + 1) true [] q).map fun x => (Value.object x.1, x.2)) hopening
          (fun size' cs' q hopen => by simp only [readValueWith, hopen]; rfl)
          ⟨piece, rfl, fun q size' hq hsize => by
            simp only [List.length_append, List.length_cons] at hsize
            rw [hread q size' (size' + 1) hq (by simpa using hsize) (by omega)]
            rfl⟩
        exact ⟨piece ++ ['}'], by simp, by simp, htakes⟩

theorem readValue_local (levels : Nat) : Local fun size => readValue size levels := by
  induction levels with
  | zero => exact readValueWith_local none nofun
  | succ levels ih =>
      refine readValueWith_local (some fun size => readValue size levels) ?_
      rintro read ⟨⟩
      exact ih

namespace Decoder

/-- **A decoder that reads by itself whatever it reads**, at every depth. -/
def IsLocal {α : Type} (decoder : Decoder α) : Prop :=
  ∀ levels, Local fun size => decoder ⟨levels, size⟩

variable {α : Type}

theorem any_isLocal : any.IsLocal := fun levels => readValue_local levels

/-! ### Scalars -/

theorem scalar_isLocal (expected : String) (select : Value → Option α) :
    (scalar expected select).IsLocal := by
  intro levels size cs a rest h
  simp only [scalar] at h
  split at h
  · exact nomatch h
  next v after hopening =>
    split at h
    next a' hselect =>
      obtain ⟨rfl, rfl⟩ := Prod.mk.inj (Except.ok.inj h)
      obtain ⟨piece, hne, rfl, htakes⟩ := opening_takes hopening
      refine ⟨piece, hne, rfl, fun q size' hq hsize => ?_⟩
      simp only [scalar, htakes q size' hq hsize, Opening.before, hselect]
    · exact nomatch h
  · exact nomatch h

/-! ### Combinations -/

theorem list_isLocal {item : Decoder α} (hitem : item.IsLocal) : (list item).IsLocal := by
  intro levels size cs as rest h
  simp only [list] at h
  split at h
  · exact nomatch h
  next after hopening =>
    cases levels with
    | zero => exact nomatch h
    | succ levels =>
        obtain ⟨piece, rfl, hread⟩ := readItems_takes (hitem levels) h
        obtain ⟨piece, rfl, htakes⟩ := bracketed_takes (fun size => list item ⟨levels + 1, size⟩)
          (fun size => readItems (item ⟨levels, size⟩) (size + 1) 0 []) hopening
          (fun size' cs' q hopen => by simp only [list, hopen]; rfl)
          ⟨piece, rfl, fun q size' hq hsize => hread q size' _ hq hsize (by
            simp only [List.length_append, List.length_cons] at hsize
            omega)⟩
        exact ⟨piece ++ [']'], by simp, by simp, htakes⟩
  · exact nomatch h

theorem member_isLocal {σ : Type} {value : Decoder α} (hvalue : value.IsLocal) (name : String)
    (set : α → σ → σ) : (member name value set).decoder.IsLocal :=
  fun levels => (hvalue levels).map set

/-- The value of a name that no member has is passed over. -/
theorem readNamed_unknown {σ : Type} {limits : Limits} {members : List (Member σ)}
    {name : String} {state : List String × σ} {cs : List Char}
    (h : members.find? (fun m => m.name == name) = none) :
    readNamed limits members name state cs =
      (readMemberValue name (passOver limits.size) cs).map fun x => (state, x.2) := by
  simp only [readNamed, h, readMemberValue]
  cases readColon cs with
  | error fault => rfl
  | ok after =>
      simp only [passOver]
      cases skipValue limits.size after <;> rfl

section

variable {σ : Type} {members : List (Member σ)} (hmembers : ∀ m ∈ members, m.decoder.IsLocal)
include hmembers

/-- The members of a record that is written as a list are read by themselves. -/
theorem readPositional_takes {expected : Option String} {levels size index : Nat}
    {state state' : σ} {cs rest : List Char}
    (h : readPositional expected ⟨levels, size⟩ members index state cs = .ok (state', rest)) :
    ∃ piece, cs = piece ++ ']' :: rest ∧ ∀ q size', q <+: rest →
      (piece ++ ']' :: q).length ≤ size' →
      readPositional expected ⟨levels, size'⟩ members index state (piece ++ ']' :: q) =
        .ok (state', q) := by
  induction members generalizing index state cs with
  | nil =>
      rw [readPositional] at h
      split at h
      · exact nomatch h
      next after hend =>
        obtain ⟨rfl, rfl⟩ := Prod.mk.inj (Except.ok.inj h)
        obtain ⟨w, rfl, hw⟩ := endList_eq_ok hend
        exact ⟨w, rfl, fun q size' _ _ => by rw [readPositional, hw]⟩
  | cons m members ih =>
      rw [readPositional] at h
      split at h
      · exact nomatch h
      next after hclosed =>
        obtain ⟨w, rfl, hw⟩ := nextItem_closed hclosed
        cases expected with
        | some expected => exact nomatch h
        | none =>
            obtain ⟨rfl, rfl⟩ := Prod.mk.inj (Except.ok.inj h)
            exact ⟨w, rfl, fun q size' _ _ => by rw [readPositional, hw]⟩
      next after hmore =>
        obtain ⟨w, c, after', rfl, rfl, hw⟩ := nextItem_more hmore
        split at h
        · exact nomatch h
        next change after'' hchange =>
          obtain ⟨piece₁, hne, hpiece, htakes⟩ :=
            hmembers m List.mem_cons_self levels _ _ _ _ hchange
          obtain ⟨piece₂, rfl, hread⟩ := ih (fun m hm => hmembers m (List.mem_cons_of_mem _ hm)) h
          obtain ⟨tail, rfl, rfl⟩ := exists_tail_of_cons_eq_append hpiece hne
          refine ⟨w ++ c :: (tail ++ piece₂), by simp, fun q size' hq hsize => ?_⟩
          simp only [List.length_append, List.length_cons] at hsize
          have h₁ := htakes _ size' (append_cons_begins hq piece₂ ']')
            (by simp only [List.length_append, List.length_cons]; omega)
          have h₂ := hread q size' hq
            (by simp only [List.length_append, List.length_cons]; omega)
          simp only [List.cons_append] at h₁
          simp only [List.append_assoc, List.cons_append, readPositional, hw, h₁, h₂]

/-- So is the value of a named member, and that of a name that no member has. -/
theorem readNamed_local (levels : Nat) (name : String) (state : List String × σ) :
    Local fun size => readNamed ⟨levels, size⟩ members name state := by
  cases hfind : members.find? fun m => m.name == name with
  | none =>
      -- the value is skipped, and the state stays as it is
      have hvalue := (readMemberValue_local passOver_local name).map fun _ => state
      intro size cs _ rest h
      simp only [readNamed_unknown hfind] at h
      obtain ⟨piece, hne, hcs, hread⟩ := hvalue _ _ _ _ h
      exact ⟨piece, hne, hcs, fun q size' hq hsize => by
        simp only [readNamed_unknown hfind, hread q size' hq hsize]⟩
  | some m =>
      have hm := hmembers m (List.mem_of_find?_eq_some hfind) levels
      have hvalue := (readMemberValue_local hm name).map fun change =>
        (name :: state.1, change state.2)
      unfold readNamed
      rw [hfind]
      simp only
      split
      · intro size cs _ rest h
        exact nomatch h
      · exact hvalue

/-- **A record is read by itself**, and it ends with a bracket. -/
theorem record_takes {expected : String} {fixedLength : Option String} {start : σ}
    {levels size : Nat} {cs rest : List Char} {a : σ}
    (h : record expected fixedLength members start ⟨levels, size⟩ cs = .ok (a, rest)) :
    ∃ piece closing, (closing = ']' ∨ closing = '}') ∧ cs = piece ++ closing :: rest ∧
      Takes (fun size => record expected fixedLength members start ⟨levels, size⟩)
        (piece ++ [closing]) a rest := by
  simp only [record] at h
  split at h
  · exact nomatch h
  next after hopening =>
    cases levels with
    | zero => exact nomatch h
    | succ levels =>
        obtain ⟨piece, rfl, hread⟩ := readPositional_takes hmembers h
        obtain ⟨piece, hcs, htakes⟩ := bracketed_takes
          (fun size => record expected fixedLength members start ⟨levels + 1, size⟩)
          (fun size => readPositional fixedLength ⟨levels, size⟩ members 0 start) hopening
          (fun size' cs' q hopen => by simp only [record, hopen]; rfl)
          ⟨piece, rfl, hread⟩
        exact ⟨piece, ']', .inl rfl, hcs, htakes⟩
  next after hopening =>
    cases levels with
    | zero => exact nomatch h
    | succ levels =>
        obtain ⟨⟨⟨names, a⟩, rest⟩, hmembers', heq⟩ := map_eq_ok_iff.1 h
        obtain ⟨rfl, rfl⟩ := Prod.mk.inj heq
        obtain ⟨piece, rfl, hread⟩ := readMembers_takes (readNamed_local hmembers levels) hmembers'
        obtain ⟨piece, hcs, htakes⟩ := bracketed_takes (a := a)
          (fun size => record expected fixedLength members start ⟨levels + 1, size⟩)
          (fun size q => (readMembers size (readNamed ⟨levels, size⟩ members) (size + 1)
            true ([], start) q).map fun x => (x.1.2, x.2)) hopening
          (fun size' cs' q hopen => by simp only [record, hopen]; rfl)
          ⟨piece, rfl, fun q size' hq hsize => by
            rw [hread q size' (size' + 1) hq hsize (by
              simp only [List.length_append, List.length_cons] at hsize
              omega)]
            rfl⟩
        exact ⟨piece, '}', .inr rfl, hcs, htakes⟩
  · exact nomatch h

theorem record_isLocal (expected : String) (fixedLength : Option String) (start : σ) :
    (record expected fixedLength members start).IsLocal := by
  intro levels size cs a rest h
  obtain ⟨piece, closing, -, rfl, htakes⟩ := record_takes hmembers h
  exact ⟨piece ++ [closing], by simp, by simp, htakes⟩

end

/-! ### Alternatives -/

theorem readOnlyName_local : Local readOnlyName := by
  intro size cs name rest h
  unfold readOnlyName at h
  split at h
  · exact nomatch h
  next c after hskip =>
    obtain ⟨w, rfl, hw⟩ := skipSpace_eq_cons hskip
    split at h
    next hc =>
      obtain ⟨piece, -, rfl, htakes⟩ := readString_local _ _ _ _ h
      refine takes_behind (P := fun size cs q => readOnlyName size cs = .ok (name, q))
        ⟨piece, rfl, fun q size' hq hsize => ?_⟩
      simp only [readOnlyName, hw, hc, if_true, htakes q size' hq hsize]
    · split at h <;> exact nomatch h

theorem readKeyed_local (known : List (String × α)) (levels : Nat) :
    Local fun size => readKeyed known ⟨levels, size⟩ := by
  intro size cs a rest h
  simp only [readKeyed] at h
  split at h
  · exact nomatch h
  next name after₁ hname =>
    split at h
    · exact nomatch h
    · exact nomatch h
    next a' after₂ halternative hcolon =>
      split at h
      · exact nomatch h
      next after₃ hunit =>
        split at h
        · exact nomatch h
        next c after₄ hskip =>
          split at h
          next hc =>
            obtain ⟨rfl, rfl⟩ := Prod.mk.inj (Except.ok.inj h)
            obtain ⟨piece₁, hne, rfl, htakes₁⟩ := readOnlyName_local _ _ _ _ hname
            obtain ⟨w₂, rfl, hw₂⟩ := readColon_eq_ok hcolon
            obtain ⟨piece₃, -, rfl, htakes₃⟩ := scalar_isLocal _ _ levels _ _ _ _ hunit
            obtain ⟨w₄, rfl, hw₄⟩ := skipSpace_eq_cons hskip
            refine ⟨piece₁ ++ (w₂ ++ ':' :: (piece₃ ++ (w₄ ++ [c]))), by simp [hne], by simp, ?_⟩
            intro q size' hq hsize
            simp only [List.length_append, List.length_cons, List.length_nil] at hsize
            have hq₃ := append_cons_begins hq w₄ c
            have hq₁ := append_cons_begins ((List.prefix_append_right_inj piece₃).2 hq₃) w₂ ':'
            have h₁ := htakes₁ _ size' hq₁
              (by simp only [List.length_append, List.length_cons]; omega)
            have h₃ : unit ⟨levels, size'⟩ (piece₃ ++ (w₄ ++ c :: q)) = .ok ((), w₄ ++ c :: q) :=
              htakes₃ _ size' hq₃ (by simp only [List.length_append, List.length_cons]; omega)
            simp only [List.append_assoc, List.cons_append, List.nil_append, readKeyed, h₁,
              halternative, hw₂, h₃, hw₄, hc, if_true]
          · exact nomatch h

theorem variant_isLocal (known : List (String × α)) : (variant known).IsLocal := by
  intro levels size cs a rest h
  simp only [variant] at h
  split at h
  · exact nomatch h
  next c after hskip =>
    obtain ⟨w, rfl, hw⟩ := skipSpace_eq_cons hskip
    split at h
    next hquote =>
      split at h
      · exact nomatch h
      next name after' hname =>
        obtain ⟨a, halternative, heq⟩ := map_eq_ok_iff.1 h
        obtain ⟨rfl, rfl⟩ := Prod.mk.inj heq
        obtain ⟨piece, -, rfl, htakes⟩ := readString_local _ _ _ _ hname
        refine takes_behind (P := fun size cs q => variant known ⟨levels, size⟩ cs = .ok (a, q))
          ⟨piece, rfl, fun q size' hq hsize => ?_⟩
        simp only [variant, hw, hquote, if_true, htakes q size' hq hsize, halternative, Except.map]
    next hquote =>
      split at h
      next hbrace =>
        cases levels with
        | zero => exact nomatch h
        | succ levels =>
            obtain ⟨piece, -, rfl, htakes⟩ := readKeyed_local known levels _ _ _ _ h
            refine takes_behind (P := fun size cs q =>
              variant known ⟨levels + 1, size⟩ cs = .ok (a, q)) ⟨piece, rfl, ?_⟩
            intro q size' hq hsize
            simp only [variant, hw, hquote, hbrace, if_true, deeper]
            exact htakes q size' hq hsize
      · exact nomatch h

end Decoder

/-! ### Blanks around a record -/

theorem isBlank_of_isSpace {c : Char} (h : isSpace c = true) : Text.isBlank c = true := by
  simp only [isSpace, Bool.or_eq_true, beq_iff_eq] at h
  rcases h with ((rfl | rfl) | rfl) | rfl <;> decide

theorem skipSpace_eq_nil_iff {cs : List Char} : skipSpace cs = [] ↔ ∀ c ∈ cs, isSpace c = true :=
  List.dropWhile_eq_nil_iff

/-- A value begins with the first character that is no space. -/
theorem opening_skipSpace (size : Nat) (cs : List Char) :
    opening size (skipSpace cs) = opening size cs := by
  have hskip : skipSpace (skipSpace cs) = skipSpace cs := List.dropWhile_idempotent _ cs
  simp only [opening, hskip]

/-- An opening bracket is no blank. -/
theorem opening_bracket {size : Nat} {cs rest : List Char} {o : Opening}
    (h : opening size cs = .ok o) (ho : o = .list rest ∨ o = .object rest) :
    ∃ c, Text.isBlank c = false ∧ skipSpace cs = c :: rest := by
  -- a scalar would have been read by a reader of its own
  have hscalar : ∀ {α : Type} {x : Except SyntaxFault α} {value : α → Value}
      {after : α → List Char}, x.map (fun a => Opening.scalar (value a) (after a)) = .ok o →
      False := by
    intro α x value after hx
    obtain ⟨a, -, heq⟩ := map_eq_ok_iff.1 hx
    rcases ho with rfl | rfl <;> exact nomatch heq
  unfold opening at h
  split at h
  · exact nomatch h
  next c after hskip =>
    split_ifs at h with hn ht hf hm hd hq hl hb
    · exact (hscalar h).elim
    · exact (hscalar h).elim
    · exact (hscalar h).elim
    · exact (hscalar h).elim
    · exact (hscalar h).elim
    · exact (hscalar h).elim
    · obtain rfl := Except.ok.inj h
      obtain rfl := beq_iff_eq.1 hl
      rcases ho with heq | heq
      · exact ⟨'[', by decide, by rw [hskip, Opening.list.inj heq]⟩
      · exact nomatch heq
    · obtain rfl := Except.ok.inj h
      obtain rfl := beq_iff_eq.1 hb
      rcases ho with heq | heq
      · exact nomatch heq
      · exact ⟨'{', by decide, by rw [hskip, Opening.object.inj heq]⟩

/-- What stands between blanks is what is left of a text when it is trimmed. -/
theorem trimChars_append {before core after : List Char}
    (hbefore : ∀ c ∈ before, Text.isBlank c = true) (hafter : ∀ c ∈ after, Text.isBlank c = true)
    {first last : Char} {tail init : List Char} (hfirst : core = first :: tail)
    (hlast : core = init ++ [last])
    (hf : Text.isBlank first = false) (hl : Text.isBlank last = false) :
    Text.trimChars (before ++ (core ++ after)) = core := by
  have hdrop : (before ++ (core ++ after)).dropWhile Text.isBlank = core ++ after := by
    rw [List.dropWhile_append_of_pos hbefore, hfirst, List.cons_append,
      List.dropWhile_cons_of_neg (by simp [hf])]
  have hreverse : (core ++ after).reverse.dropWhile Text.isBlank = core.reverse := by
    rw [List.reverse_append, List.dropWhile_append_of_pos (by simpa using hafter), hlast,
      List.reverse_append, List.reverse_singleton, List.singleton_append,
      List.dropWhile_cons_of_neg (by simp [hl])]
  rw [Text.trimChars, hdrop, hreverse, List.reverse_reverse]

/-- A text of spaces, a bracketed part and spaces is trimmed to the bracketed part. -/
theorem toList_trim_of_bracketed {text : String} {first closing : Char}
    {tail piece after : List Char} (hskip : skipSpace text.toList = first :: tail)
    (hcore : first :: tail = piece ++ closing :: after) (hafter : skipSpace after = [])
    (hfirst : Text.isBlank first = false) (hclosing : Text.isBlank closing = false) :
    (Text.trim text).toList = piece ++ [closing] := by
  have hcore : first :: tail = (piece ++ [closing]) ++ after := by
    rw [hcore, List.append_assoc, List.singleton_append]
  have htext : text.toList = text.toList.takeWhile isSpace ++ ((piece ++ [closing]) ++ after) := by
    rw [← hcore, ← hskip]
    exact List.takeWhile_append_dropWhile.symm
  obtain ⟨_, hbegins, -⟩ := exists_tail_of_cons_eq_append hcore (by simp)
  rw [Text.toList_trim, htext]
  exact trimChars_append (fun c hc => isBlank_of_isSpace (List.mem_takeWhile_imp hc))
    (fun c hc => isBlank_of_isSpace (skipSpace_eq_nil_iff.1 hafter c hc))
    hbegins rfl hfirst hclosing

section

variable {σ : Type} {members : List (Decoder.Member σ)} {expected : String}
  {fixedLength : Option String} {start : σ}

/-- A record begins with a bracket. -/
theorem record_begins {limits : Limits} {cs rest : List Char} {a : σ}
    (h : Decoder.record expected fixedLength members start limits cs = .ok (a, rest)) :
    ∃ c tail, Text.isBlank c = false ∧ skipSpace cs = c :: tail := by
  simp only [Decoder.record] at h
  split at h
  · exact nomatch h
  next after hopening =>
    obtain ⟨c, hc, hskip⟩ := opening_bracket hopening (.inl rfl)
    exact ⟨c, after, hc, hskip⟩
  next after hopening =>
    obtain ⟨c, hc, hskip⟩ := opening_bracket hopening (.inr rfl)
    exact ⟨c, after, hc, hskip⟩
  · exact nomatch h

/-- Spaces before a record do not matter. -/
theorem record_skipSpace (limits : Limits) (cs : List Char) :
    Decoder.record expected fixedLength members start limits (skipSpace cs) =
      Decoder.record expected fixedLength members start limits cs := by
  simp only [Decoder.record, opening_skipSpace]

/-- **Blanks around a record do not matter.**  A text that is read as a record is read as the same
record when it is trimmed, and then it is not empty. -/
theorem decode_record_trim (hmembers : ∀ m ∈ members, m.decoder.IsLocal) {text : String} {a : σ}
    (h : decode (.record expected fixedLength members start) text = .ok a) :
    decode (.record expected fixedLength members start) (Text.trim text) = .ok a ∧
      Text.trim text ≠ "" := by
  unfold decode decodeFront at h
  split at h
  · exact nomatch h
  next a' after hread =>
    split at h
    next hafter =>
      obtain rfl := Except.ok.inj h
      obtain ⟨first, tail, hfirst, hskip⟩ := record_begins hread
      rw [← record_skipSpace, hskip] at hread
      obtain ⟨piece, closing, hclosing, hcore, htakes⟩ := Decoder.record_takes hmembers hread
      have hend : Text.isBlank closing = false := by
        rcases hclosing with rfl | rfl <;> decide
      have htrim := toList_trim_of_bracketed hskip hcore hafter hfirst hend
      -- what is left of the text is the record, with nothing behind it
      have halone := htakes [] (piece ++ [closing]).length List.nil_prefix (by simp)
      refine ⟨?_, ?_⟩
      · rw [List.append_nil] at halone
        simp only at halone
        simp only [decode, decodeFront, htrim, halone]
        rfl
      · intro hempty
        rw [hempty] at htrim
        exact List.append_ne_nil_of_right_ne_nil piece (List.cons_ne_nil closing []) htrim.symm
    · exact nomatch h

end

end ContactBook.Json
