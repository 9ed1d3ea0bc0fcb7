/-
**What a clause means.**

A clause refers to its values by their indices.  With each value in the place of the references to
it, the clause is a list of characters and values: its meaning.  Texts that are merged and
references that move must not change it.  So the meaning of a clause with another one after it is
the meaning of the one followed by that of the other.  And the text of a clause writes its meaning,
if for each value it has a placeholder with a number under which the value is found.

All this is said of sound clauses, in which each reference has a value.  Every operation leaves a
sound clause sound, and adds something to the end of its meaning.

Main definitions:

* `ContactBook.Clause.meaning` — the meaning of a clause, in tokens;
* `ContactBook.Clause.Sound` — a clause whose references all have values and in which no text
  follows a text;
* `ContactBook.Clause.Grows` — what an operation adds to a clause;
* `ContactBook.Rendered.Writes` — a text in which tokens are written, values by placeholders.

Main results:

* `ContactBook.Clause.join_assoc`, `ContactBook.Clause.append_assoc` — pieces are joined and clauses
  are appended in any grouping;
* `ContactBook.Clause.Sound.grows_join` — **what is joined to a sound clause adds its meaning**,
  from which each operation follows;
* `ContactBook.Clause.Sound.grows_append` — **appending a clause adds its meaning**;
* `ContactBook.Clause.Sound.append_eq_foldl` — its pieces could as well be appended one by one;
* `ContactBook.Clause.Sound.writes` — **the text of a clause writes its meaning**.
-/

import ContactBook.Proofs.Clause
import Mathlib.Data.List.Chain

set_option autoImplicit false

namespace ContactBook

/-! ### Tokens -/

/-- A part of the meaning of a clause: a character of its text, or a value as a whole. -/
inductive Token where
  | char (c : Char)
  | value (v : String)
  deriving DecidableEq, Repr

/-- The tokens of a text. -/
def Token.ofText (s : String) : List Token := s.toList.map .char

theorem Token.ofText_append (s t : String) : ofText (s ++ t) = ofText s ++ ofText t := by
  simp [ofText]

namespace Piece

/-- Whether a piece is text. -/
def isText : Piece → Bool
  | .text _ => true
  | .param _ => false

/-- What a piece means beside the values `binds`: a reference means the value with its index. -/
def tokens (binds : List String) : Piece → List Token
  | .text s => Token.ofText s
  | .param i => binds[i]?.toList.map .value

theorem tokens_param {binds : List String} {i : Nat} {v : String} (h : binds[i]? = some v) :
    tokens binds (.param i) = [.value v] := by
  rw [tokens, h]
  rfl

/-- A reference that has a value keeps it when values come behind. -/
theorem tokens_append_left {binds : List String} {piece : Piece}
    (h : ∀ i, piece = .param i → i < binds.length) (more : List String) :
    piece.tokens (binds ++ more) = piece.tokens binds := by
  cases piece with
  | text s => rfl
  | param i => rw [tokens, tokens, List.getElem?_append_left (h i rfl)]

/-- A reference that is moved behind other values means what it meant. -/
theorem tokens_shift (binds more : List String) (piece : Piece) :
    (piece.shift binds.length).tokens (binds ++ more) = piece.tokens more := by
  cases piece with
  | text s => rfl
  | param i =>
      rw [shift, tokens, tokens, List.getElem?_append_right (Nat.le_add_left _ _),
        Nat.add_sub_cancel]

@[simp] theorem isText_shift (offset : Nat) (piece : Piece) :
    (piece.shift offset).isText = piece.isText := by
  cases piece <;> rfl

end Piece

namespace Clause

variable {p q : List Piece}

/-! ### Pieces that are joined -/

/-- Only the last piece meets what comes behind. -/
theorem join_cons (piece : Piece) (h : p ≠ []) (q : List Piece) :
    join (piece :: p) q = piece :: join p q := by
  rw [join]
  intro s t rest _ _ hp
  exact h hp

/-- A reference is not merged with anything. -/
theorem join_param (i : Nat) (p q : List Piece) :
    join (.param i :: p) q = .param i :: join p q := by
  rw [join]
  exact nofun

@[simp] theorem join_nil (p : List Piece) : join p [] = p := by
  induction p with
  | nil => rfl
  | cons piece p ih =>
      rw [join, ih]
      exact nofun

/-- Behind one text, pieces are joined in any grouping.  If a text comes next the two merge, and a
third may merge with both. -/
theorem join_text_join (s : String) (q r : List Piece) :
    join (join [.text s] q) r = join [.text s] (join q r) := by
  have hparam : ∀ i rest, join [.text s] (.param i :: rest) = .text s :: .param i :: rest :=
    fun _ _ => rfl
  have htext : ∀ t rest, join [.text s] (.text t :: rest) = .text (s ++ t) :: rest :=
    fun _ _ => rfl
  cases q with
  | nil => rfl
  | cons piece q =>
      cases piece with
      | param i =>
          rw [join_param, hparam, hparam, join_cons _ (List.cons_ne_nil _ _), join_param]
      | text t =>
          by_cases hq : q = []
          · subst hq
            cases r with
            | nil => rfl
            | cons piece r =>
                cases piece with
                | param i => rfl
                | text u => simp [join, String.append_assoc]
          · rw [htext, join_cons _ hq, join_cons _ hq, htext]

/-- **Pieces are joined in any grouping.** -/
theorem join_assoc (p q r : List Piece) : join (join p q) r = join p (join q r) := by
  induction p with
  | nil => rfl
  | cons piece p ih =>
      by_cases hp : p = []
      · subst hp
        cases piece with
        | param i =>
            rw [join_param, join_param, join_param]
            rfl
        | text s => exact join_text_join s q r
      · have hjoin : join p q ≠ [] := fun h => hp (join_eq_nil_iff.1 h).1
        rw [join_cons _ hp, join_cons _ hjoin, join_cons _ hp, ih]

/-- No reference is lost or added where pieces are joined. -/
theorem param_mem_join_iff {i : Nat} : .param i ∈ join p q ↔ .param i ∈ p ∨ .param i ∈ q := by
  fun_induction join p q with
  | case1 q => simp
  | case2 s t q => simp
  | case3 piece p q _ ih => simp [ih, or_assoc]

/-- Joined pieces mean what the one part means and then what the other means. -/
theorem flatMap_tokens_join (binds : List String) (p q : List Piece) :
    (join p q).flatMap (Piece.tokens binds) =
      p.flatMap (Piece.tokens binds) ++ q.flatMap (Piece.tokens binds) := by
  fun_induction join p q with
  | case1 q => rfl
  | case2 s t q => simp [Piece.tokens, Token.ofText_append]
  | case3 piece p q _ ih => simp [ih]

/-- Two pieces that are not both text. -/
def Apart (piece next : Piece) : Prop := ¬(piece.isText = true ∧ next.isText = true)

/-- Joined pieces begin with text exactly if the front part does. -/
theorem exists_join_eq_cons (piece : Piece) (p q : List Piece) :
    ∃ first rest, join (piece :: p) q = first :: rest ∧ first.isText = piece.isText := by
  by_cases hp : p = []
  · subst hp
    cases piece with
    | param i => exact ⟨.param i, q, join_param i [] q, rfl⟩
    | text s =>
        cases q with
        | nil => exact ⟨.text s, [], rfl, rfl⟩
        | cons next q =>
            cases next with
            | param i => exact ⟨.text s, .param i :: q, rfl, rfl⟩
            | text t => exact ⟨.text (s ++ t), q, rfl, rfl⟩
  · exact ⟨piece, join p q, join_cons piece hp q, rfl⟩

/-- Text does not follow text in joined pieces if it does not in either part. -/
theorem isChain_join (hp : p.IsChain Apart) (hq : q.IsChain Apart) :
    (join p q).IsChain Apart := by
  fun_induction join p q with
  | case1 q => exact hq
  | case2 s t q =>
      rw [List.isChain_cons] at hq ⊢
      exact hq
  | case3 piece p q hseam ih =>
      cases p with
      | cons next p =>
          obtain ⟨first, rest, hjoin, hfirst⟩ := exists_join_eq_cons next p q
          rw [List.isChain_cons_cons] at hp
          have ih := ih hp.2 hq
          rw [hjoin] at ih ⊢
          refine List.isChain_cons_cons.2 ⟨?_, ih⟩
          rw [Apart, hfirst]
          exact hp.1
      | nil =>
          cases q with
          | nil => exact .singleton _
          | cons next q =>
              refine List.isChain_cons_cons.2 ⟨?_, hq⟩
              rintro ⟨hpiece, hnext⟩
              -- two texts would have been merged
              cases piece with
              | param i => exact Bool.false_ne_true hpiece
              | text s =>
                  cases next with
                  | param i => exact Bool.false_ne_true hnext
                  | text t => exact hseam s t q rfl rfl rfl

/-- Moved pieces are text where the pieces are. -/
theorem isChain_map_shift {offset : Nat} (h : p.IsChain Apart) :
    (p.map (Piece.shift offset)).IsChain Apart := by
  rw [List.isChain_map]
  refine h.imp fun piece next hnext => ?_
  rwa [Apart, Piece.isText_shift, Piece.isText_shift]

/-! ### Sound clauses -/

/-- **The meaning of a clause**: its text, with each value in the place of the references to it. -/
def meaning (c : Clause) : List Token := c.pieces.flatMap (Piece.tokens c.binds)

/-- A clause whose references all have values and in which no text follows a text. -/
structure Sound (c : Clause) : Prop where
  bound : ∀ i, .param i ∈ c.pieces → i < c.paramCount
  apart : c.pieces.IsChain Apart

/-- What an operation adds to a clause: tokens at the end of its meaning, and values behind its own.
The clause stays sound. -/
structure Grows (c d : Clause) (tokens : List Token) (values : List String) : Prop where
  sound : d.Sound
  binds_eq : d.binds = c.binds ++ values
  meaning_eq : d.meaning = c.meaning ++ tokens

variable {c d e : Clause}

theorem sound_empty : empty.Sound := ⟨fun _ h => (nomatch h), .nil⟩

theorem Sound.grows_refl (h : c.Sound) : c.Grows c [] [] :=
  ⟨h, (List.append_nil _).symm, (List.append_nil _).symm⟩

theorem Grows.trans {tokens tokens' : List Token} {values values' : List String}
    (h : c.Grows d tokens values) (h' : d.Grows e tokens' values') :
    c.Grows e (tokens ++ tokens') (values ++ values') where
  sound := h'.sound
  binds_eq := by rw [h'.binds_eq, h.binds_eq, List.append_assoc]
  meaning_eq := by rw [h'.meaning_eq, h.meaning_eq, List.append_assoc]

/-- **Pieces that are joined to a sound clause, with values, add what they mean.** -/
theorem Sound.grows_join (h : c.Sound) (q : List Piece) (values : List String)
    (hbound : ∀ i, .param i ∈ q → i < c.paramCount + values.length) (hapart : q.IsChain Apart) :
    c.Grows ⟨join c.pieces q, c.binds ++ values⟩
      (q.flatMap (Piece.tokens (c.binds ++ values))) values where
  sound := by
    refine ⟨fun i hi => ?_, isChain_join h.apart hapart⟩
    rw [paramCount, List.length_append]
    rcases param_mem_join_iff.1 hi with hi | hi
    · exact Nat.lt_add_right _ (h.bound i hi)
    · exact hbound i hi
  binds_eq := rfl
  meaning_eq := by
    rw [meaning, flatMap_tokens_join]
    refine congrArg (· ++ _) (List.flatMap_congr fun piece hpiece => ?_)
    refine Piece.tokens_append_left (fun i hi => ?_) values
    exact h.bound i (hi ▸ hpiece)

/-! ### Operations -/

theorem Sound.grows_push (h : c.Sound) (s : String) :
    c.Grows (c.push s) (Token.ofText s) [] := by
  simpa [push, Piece.tokens] using h.grows_join [.text s] [] (by simp) (.singleton _)

/-- A reference adds its value, whether that is bound along with it or was bound before. -/
theorem Sound.grows_param (h : c.Sound) (values : List String) {i : Nat} {v : String}
    (hvalue : (c.binds ++ values)[i]? = some v) :
    c.Grows ⟨join c.pieces [.param i], c.binds ++ values⟩ [.value v] values := by
  have hlt : i < c.paramCount + values.length := by
    rw [paramCount, ← List.length_append]
    exact (List.getElem?_eq_some_iff.1 hvalue).1
  have hgrows := h.grows_join [.param i] values (by simpa using hlt) (.singleton _)
  rwa [List.flatMap_singleton, Piece.tokens_param hvalue] at hgrows

theorem Sound.grows_bind (h : c.Sound) (v : String) : c.Grows (c.bind v) [.value v] [v] :=
  h.grows_param [v] List.getElem?_concat_length

theorem Sound.grows_rebind (h : c.Sound) {slot : Slot} {v : String}
    (hvalue : c.binds[slot.index]? = some v) : c.Grows (c.rebind slot) [.value v] [] := by
  rw [← List.append_nil c.binds] at hvalue
  simpa [rebind] using h.grows_param [] hvalue

/-- What values mean that are separated by commas. -/
def separated (values : List String) : List Token :=
  List.intercalate (Token.ofText ", ") (values.map fun v => [.value v])

theorem Sound.grows_bindSeparated (h : c.Sound) (values : List String) :
    c.Grows (c.bindSeparated values) (separated values) values := by
  fun_induction bindSeparated c values with
  | case1 c => exact h.grows_refl
  | case2 c v => simpa [separated] using h.grows_bind v
  | case3 c v rest hrest ih =>
      obtain ⟨w, rest, rfl⟩ := List.exists_cons_of_ne_nil fun h => hrest h
      have hvalue := h.grows_bind v
      have hcomma := hvalue.trans (hvalue.sound.grows_push ", ")
      simpa [separated] using hcomma.trans (ih hcomma.sound)

/-- What values mean that are written as a list in parentheses. -/
def listed (values : List String) : List Token :=
  Token.ofText "(" ++ separated values ++ Token.ofText ")"

theorem Sound.grows_bindList (h : c.Sound) (values : List String) :
    c.Grows (c.bindList values) (listed values) values := by
  have hopen := h.grows_push "("
  have hvalues := hopen.sound.grows_bindSeparated values
  have hclose := hvalues.sound.grows_push ")"
  simpa [bindList, listed] using (hopen.trans hvalues).trans hclose

/-- **Appending a clause adds what it means**, and its values come behind. -/
theorem Sound.grows_append (h : c.Sound) (h' : d.Sound) :
    c.Grows (c.append d) d.meaning d.binds := by
  have hbound : ∀ i, .param i ∈ d.pieces.map (Piece.shift c.binds.length) →
      i < c.paramCount + d.binds.length := by
    intro i hi
    obtain ⟨piece, hpiece, hi⟩ := List.mem_map.1 hi
    cases piece with
    | text s => exact nomatch hi
    | param j =>
        obtain rfl := Piece.param.inj hi
        have hj := h'.bound j hpiece
        rw [paramCount] at hj ⊢
        omega
  have hgrows := h.grows_join _ d.binds hbound (isChain_map_shift h'.apart)
  rw [List.flatMap_map] at hgrows
  simp only [Piece.tokens_shift] at hgrows
  exact hgrows

/-! ### Appending -/

@[simp] theorem append_empty (c : Clause) : c.append empty = c := by
  simp [append, empty]

@[simp] theorem empty_append (c : Clause) : empty.append c = c := by
  have hshift : c.pieces.map (Piece.shift 0) = c.pieces := by
    rw [funext Piece.shift_zero, List.map_id']
  simp [append, empty, join, hshift]

/-- **Clauses are appended in any grouping.** -/
theorem append_assoc (c d e : Clause) : (c.append d).append e = c.append (d.append e) := by
  -- what `e` refers to moves once or twice, but by the same number of values
  have hshift : Piece.shift c.binds.length ∘ Piece.shift d.binds.length =
      Piece.shift (c.binds ++ d.binds).length := by
    funext piece
    rw [Function.comp_apply, Piece.shift_shift, List.length_append, Nat.add_comm]
  simp only [append, map_shift_join, join_assoc, List.map_map, hshift, List.append_assoc]

/-- A clause with one more piece at its end, whose reference moves behind `offset` values. -/
def addPiece (offset : Nat) (c : Clause) : Piece → Clause
  | .text s => c.push s
  | .param i => c.rebind ⟨i + offset⟩

theorem addPiece_eq (offset : Nat) (c : Clause) (piece : Piece) :
    c.addPiece offset piece = { c with pieces := join c.pieces [piece.shift offset] } := by
  cases piece <;> rfl

/-- A piece that is not merged with what comes behind stays in front of it. -/
theorem join_of_apart {piece : Piece} (h : (piece :: q).IsChain Apart) :
    join [piece] q = piece :: q := by
  cases piece with
  | param i => exact join_param i [] q
  | text s =>
      cases q with
      | nil => rfl
      | cons next q =>
          cases next with
          | param i => rfl
          | text t => exact absurd ⟨rfl, rfl⟩ (List.isChain_cons_cons.1 h).1

theorem foldl_addPiece (h : q.IsChain Apart) (offset : Nat) (c : Clause) :
    q.foldl (addPiece offset) c =
      { c with pieces := join c.pieces (q.map (Piece.shift offset)) } := by
  induction q generalizing c with
  | nil => simp
  | cons piece q ih =>
      have hmoved : ((piece :: q).map (Piece.shift offset)).IsChain Apart := isChain_map_shift h
      rw [List.map_cons] at hmoved ⊢
      rw [List.foldl_cons, ih h.tail, addPiece_eq, join_assoc, join_of_apart hmoved]

/-- **Appending a clause is appending its pieces one by one**: only at the seam does text meet
text. -/
theorem Sound.append_eq_foldl (h : d.Sound) (c : Clause) :
    c.append d =
      { d.pieces.foldl (addPiece c.paramCount) c with binds := c.binds ++ d.binds } := by
  rw [foldl_addPiece h.apart]
  rfl

end Clause

/-! ### Rendering -/

namespace Rendered

/-- The value of the placeholder with a number; placeholders are counted from one. -/
def value? (r : Rendered) : Nat → Option String
  | 0 => none
  | i + 1 => r.params[i]?

/-- Text in which tokens are written: a character as it is, and a value as a placeholder of this
value.  Where a placeholder ends is for the texts to make clear: one that begins with a digit should
not stand behind a value. -/
inductive Writes (r : Rendered) : List Token → List Char → Prop
  | nil : Writes r [] []
  | char (c : Char) {tokens : List Token} {text : List Char} (h : Writes r tokens text) :
      Writes r (.char c :: tokens) (c :: text)
  | value (number : Nat) {v : String} {tokens : List Token} {text : List Char}
      (hv : r.value? number = some v) (h : Writes r tokens text) :
      Writes r (.value v :: tokens) ('?' :: (toString number).toList ++ text)

/-- A text is written as it is. -/
theorem Writes.ofText {r : Rendered} {tokens : List Token} {text : List Char}
    (h : r.Writes tokens text) (s : String) :
    r.Writes (Token.ofText s ++ tokens) (s.toList ++ text) := by
  rw [Token.ofText]
  induction s.toList with
  | nil => exact h
  | cons c cs ih => exact .char c ih

end Rendered

namespace Clause

variable {c : Clause}

/-- Pieces whose references all have values are written as what they mean. -/
theorem writes_textFrom {r : Rendered} {pieces : List Piece}
    (h : ∀ i, .param i ∈ pieces → i < r.params.length) :
    r.Writes (pieces.flatMap (Piece.tokens r.params)) (textFrom 0 pieces).toList := by
  induction pieces with
  | nil => exact .nil
  | cons piece pieces ih =>
      have hrest := ih fun i hi => h i (List.mem_cons_of_mem _ hi)
      rw [List.flatMap_cons, textFrom_cons, Piece.shift_zero, String.toList_append]
      cases piece with
      | text s => exact hrest.ofText s
      | param i =>
          obtain ⟨v, hv⟩ : ∃ v, r.params[i]? = some v :=
            ⟨_, List.getElem?_eq_getElem (h i List.mem_cons_self)⟩
          rw [Piece.tokens_param hv, pieceText, String.toList_append]
          exact .value (i + 1) hv hrest

/-- **The text of a sound clause writes its meaning.** -/
theorem Sound.writes (h : c.Sound) : c.render.Writes c.meaning c.render.sql.toList := by
  have hwrites := writes_textFrom (r := c.render) h.bound
  rwa [render_eq] at hwrites ⊢

/-- **A reference is written as the placeholder of its value.** -/
theorem Sound.placeholder (h : c.Sound) {before after : List Piece} {i : Nat}
    (hpieces : c.pieces = before ++ .param i :: after) :
    ∃ v, c.binds[i]? = some v ∧ c.render.value? (i + 1) = some v ∧
      c.render.sql = textFrom 0 before ++ ("?" ++ toString (i + 1)) ++ textFrom 0 after := by
  have hlt : i < c.binds.length := h.bound i (by simp [hpieces])
  have hvalue : c.binds[i]? = some c.binds[i] := List.getElem?_eq_getElem hlt
  refine ⟨c.binds[i], hvalue, hvalue, ?_⟩
  rw [render_eq, hpieces, textFrom_append, textFrom_cons, Piece.shift_zero, String.append_assoc]
  rfl

end Clause

end ContactBook
