/-
**Values that differ only in how their objects are written.**

An object may be written with its members in any order, and a member counts for nothing when a later
one has its name.  Reading makes the members ascend by name, each name once, at every depth: this is
the normal form of a value.  Writing an object in another order, or with members that are
overridden, does not change it, and a value whose members ascend is its own normal form.

Main definitions:

* `ContactBook.Json.Value.depth`, `ContactBook.Json.Value.all` — how deep the brackets of a value
  nest, and what holds of all values in it;
* `ContactBook.Json.Value.normal` — the normal form;
* `ContactBook.Json.Value.Alike` — values that differ in the order of members and in members that
  are overridden.

Main results:

* `ContactBook.Json.Value.induction` — induction over the items and the members of a value;
* `ContactBook.Json.Value.Alike.normal_eq` — **values that are alike have one normal form**;
* `ContactBook.Json.Value.normal_of_isSorted` — **a value with ascending members is in normal
  form**.
-/

import ContactBook.Json.Value
import Mathlib.Data.String.Basic

set_option autoImplicit false

namespace ContactBook.Json.Value

/-! ### Values and the values in them -/

/-- Induction over values: a property of arrays and of objects may be derived from the same property
of the items and of the members. -/
@[induction_eliminator]
theorem induction {P : Value → Prop} (null : P .null) (bool : ∀ b, P (.bool b))
    (number : ∀ n, P (.number n)) (string : ∀ s, P (.string s))
    (array : ∀ items, (∀ v ∈ items, P v) → P (.array items))
    (object : ∀ members, (∀ m ∈ members, P m.2) → P (.object members)) (v : Value) : P v :=
  @Value.rec P (fun items => ∀ v ∈ items, P v) (fun members => ∀ m ∈ members, P m.2)
    (fun m => P m.2) null bool number string array object (by simp)
    (fun _ _ hv hrest => List.forall_mem_cons.2 ⟨hv, hrest⟩) (by simp)
    (fun _ _ hm hrest => List.forall_mem_cons.2 ⟨hm, hrest⟩) (fun _ _ hv => hv) v

mutual

/-- How deep brackets nest in a value. -/
def depth : Value → Nat
  | .array items => itemsDepth items + 1
  | .object members => membersDepth members + 1
  | _ => 0

/-- How deep brackets nest in items. -/
def itemsDepth : List Value → Nat
  | [] => 0
  | v :: rest => max v.depth (itemsDepth rest)

/-- How deep brackets nest in members. -/
def membersDepth : List (String × Value) → Nat
  | [] => 0
  | (_, v) :: rest => max v.depth (membersDepth rest)

end

mutual

/-- Whether a property holds of a value and of all values in it. -/
def all (p : Value → Bool) : Value → Bool
  | .array items => p (.array items) && allItems p items
  | .object members => p (.object members) && allMembers p members
  | v => p v

/-- Whether a property holds of items and of all values in them. -/
def allItems (p : Value → Bool) : List Value → Bool
  | [] => true
  | v :: rest => v.all p && allItems p rest

/-- Whether a property holds of the values of members and of all values in them. -/
def allMembers (p : Value → Bool) : List (String × Value) → Bool
  | [] => true
  | (_, v) :: rest => v.all p && allMembers p rest

end

mutual

/-- **The normal form of a value**, in which the members of each object ascend by name and those
that are overridden are gone. -/
def normal : Value → Value
  | .array items => .array (normalItems items)
  | .object members => ofMembers (normalMembers members)
  | v => v

/-- Items with each in normal form. -/
def normalItems : List Value → List Value
  | [] => []
  | v :: rest => v.normal :: normalItems rest

/-- Members with the value of each in normal form. -/
def normalMembers : List (String × Value) → List (String × Value)
  | [] => []
  | (name, v) :: rest => (name, v.normal) :: normalMembers rest

end

section

variable {items : List Value} {members : List (String × Value)} {levels : Nat} {p : Value → Bool}

theorem itemsDepth_le_iff : itemsDepth items ≤ levels ↔ ∀ v ∈ items, v.depth ≤ levels := by
  induction items with
  | nil => simp [itemsDepth]
  | cons v items ih => simp [itemsDepth, ih]

theorem membersDepth_le_iff :
    membersDepth members ≤ levels ↔ ∀ m ∈ members, m.2.depth ≤ levels := by
  induction members with
  | nil => simp [membersDepth]
  | cons m members ih => simp [membersDepth, ih]

theorem depth_array_le_iff : (array items).depth ≤ levels + 1 ↔ ∀ v ∈ items, v.depth ≤ levels := by
  rw [depth, Nat.succ_le_succ_iff, itemsDepth_le_iff]

theorem depth_object_le_iff :
    (object members).depth ≤ levels + 1 ↔ ∀ m ∈ members, m.2.depth ≤ levels := by
  rw [depth, Nat.succ_le_succ_iff, membersDepth_le_iff]

theorem allItems_iff : allItems p items ↔ ∀ v ∈ items, v.all p := by
  induction items with
  | nil => simp [allItems]
  | cons v items ih => simp [allItems, ih]

theorem allMembers_iff : allMembers p members ↔ ∀ m ∈ members, m.2.all p := by
  induction members with
  | nil => simp [allMembers]
  | cons m members ih => simp [allMembers, ih]

theorem all_array_iff : (array items).all p ↔ p (.array items) ∧ ∀ v ∈ items, v.all p := by
  rw [all, Bool.and_eq_true, allItems_iff]

theorem all_object_iff :
    (object members).all p ↔ p (.object members) ∧ ∀ m ∈ members, m.2.all p := by
  rw [all, Bool.and_eq_true, allMembers_iff]

@[simp] theorem normal_array : (array items).normal = .array (items.map normal) := by
  have hitems : normalItems items = items.map normal := by
    induction items with
    | nil => rfl
    | cons v items ih => rw [normalItems, List.map_cons, ih]
  rw [normal, hitems]

@[simp] theorem normal_object :
    (object members).normal = ofMembers (members.map fun m => (m.1, m.2.normal)) := by
  have hmembers : normalMembers members = members.map fun m => (m.1, m.2.normal) := by
    induction members with
    | nil => rfl
    | cons m members ih => rw [normalMembers, List.map_cons, ih]
  rw [normal, hmembers]

end

/-! ### Members one after the other -/

section

variable {name other : String} {value value' : Value} {members : List (String × Value)}

/-- Members of different names may be set in any order. -/
theorem put_comm (h : name ≠ other) :
    put name value (put other value' members) = put other value' (put name value members) := by
  induction members with
  | nil => grind [put]
  | cons m members ih => grind [put]

/-- Of two values set for one name the later counts. -/
theorem put_put : put name value (put name value' members) = put name value members := by
  induction members with
  | nil => simp [put]
  | cons m members ih => grind [put]

/-- A member whose name comes behind all others is set at the end. -/
theorem put_of_forall_lt (h : ∀ m ∈ members, m.1 < name) :
    put name value members = members ++ [(name, value)] := by
  induction members with
  | nil => rfl
  | cons m members ih =>
      have hm := h m List.mem_cons_self
      have hrest := ih fun m hm => h m (List.mem_cons_of_mem _ hm)
      simp [put, hm.not_gt, hm.ne', hrest]

/-- Members with others set one after the other. -/
def putAll (members more : List (String × Value)) : List (String × Value) :=
  more.foldl (fun acc m => put m.1 m.2 acc) members

theorem ofMembers_eq (members : List (String × Value)) :
    ofMembers members = .object (putAll [] members) := rfl

theorem putAll_append (start before after : List (String × Value)) :
    putAll start (before ++ after) = putAll (putAll start before) after :=
  List.foldl_append

theorem putAll_cons (start more : List (String × Value)) (m : String × Value) :
    putAll start (m :: more) = putAll (put m.1 m.2 start) more := rfl

/-- A member that comes again is overridden. -/
theorem putAll_put {start more : List (String × Value)} (h : ∃ m ∈ more, m.1 = name) :
    putAll (put name value start) more = putAll start more := by
  induction more generalizing start with
  | nil =>
      obtain ⟨m, hm, -⟩ := h
      exact absurd hm List.not_mem_nil
  | cons m more ih =>
      rw [putAll_cons, putAll_cons]
      by_cases hname : m.1 = name
      · rw [hname, put_put]
      · obtain ⟨m', hm', heq⟩ := h
        rcases List.mem_cons.1 hm' with rfl | hm'
        · exact absurd heq hname
        · rw [put_comm hname, ih ⟨m', hm', heq⟩]

/-- Members that ascend are kept as they are. -/
theorem putAll_of_sorted {start more : List (String × Value)}
    (h : (start ++ more).Pairwise fun m m' => m.1 < m'.1) : putAll start more = start ++ more := by
  induction more generalizing start with
  | nil => exact (List.append_nil start).symm
  | cons m more ih =>
      have hlast : ∀ m' ∈ start, m'.1 < m.1 := fun m' hm' =>
        (List.pairwise_append.1 h).2.2 m' hm' m List.mem_cons_self
      rw [List.append_cons] at h ⊢
      rw [putAll_cons, put_of_forall_lt hlast, ih h]

end

/-! ### Normal forms -/

/-- **Values that differ only in how their objects are written**: in the order of members of
different names, and in members that a later one of the same name overrides. -/
inductive Alike : Value → Value → Prop
  | refl (v : Value) : Alike v v
  | symm {v w : Value} : Alike v w → Alike w v
  | trans {u v w : Value} : Alike u v → Alike v w → Alike u w
  | item {v w : Value} (before after : List Value) :
      Alike v w → Alike (.array (before ++ v :: after)) (.array (before ++ w :: after))
  | member {v w : Value} (before after : List (String × Value)) (name : String) :
      Alike v w →
        Alike (.object (before ++ (name, v) :: after)) (.object (before ++ (name, w) :: after))
  | swap {m m' : String × Value} (before after : List (String × Value)) :
      m.1 ≠ m'.1 →
        Alike (.object (before ++ m :: m' :: after)) (.object (before ++ m' :: m :: after))
  | overridden {m m' : String × Value} (before after : List (String × Value)) :
      m' ∈ after → m'.1 = m.1 → Alike (.object (before ++ m :: after)) (.object (before ++ after))

/-- **Values that are alike have one normal form.** -/
theorem Alike.normal_eq {v w : Value} (h : Alike v w) : v.normal = w.normal := by
  induction h with
  | refl v => rfl
  | symm _ ih => exact ih.symm
  | trans _ _ ih ih' => exact ih.trans ih'
  | item before after _ ih => simp [ih]
  | member before after name _ ih => simp [ih]
  | swap before after hne =>
      simp only [normal_object, ofMembers_eq, List.map_append, List.map_cons, putAll_append,
        putAll_cons]
      rw [put_comm hne.symm]
  | @overridden m m' before after hm' hname =>
      simp only [normal_object, ofMembers_eq, List.map_append, List.map_cons, putAll_append,
        putAll_cons]
      rw [putAll_put ⟨_, List.mem_map_of_mem hm', hname⟩]

/-- Whether the members of each object in a value ascend by name, as those that are read do. -/
def isSorted : Value → Bool :=
  all fun
    | .object members => decide (members.Pairwise fun m m' => m.1 < m'.1)
    | _ => true

theorem isSorted_array_iff {items : List Value} :
    (array items).isSorted ↔ ∀ v ∈ items, v.isSorted := by
  simp [isSorted, all_array_iff]

theorem isSorted_object_iff {members : List (String × Value)} :
    (object members).isSorted ↔
      (members.Pairwise fun m m' => m.1 < m'.1) ∧ ∀ m ∈ members, m.2.isSorted := by
  simp [isSorted, all_object_iff]

/-- **A value with ascending members is in normal form.** -/
theorem normal_of_isSorted {v : Value} (h : v.isSorted) : v.normal = v := by
  induction v with
  | null | bool _ | number _ | string _ => rfl
  | array items ih =>
      have hitems := isSorted_array_iff.1 h
      have hmap : items.map normal = items :=
        (List.map_congr_left fun v hv => ih v hv (hitems v hv)).trans (List.map_id items)
      rw [normal_array, hmap]
  | object members ih =>
      obtain ⟨hsorted, hmembers⟩ := isSorted_object_iff.1 h
      have hmap : (members.map fun m => (m.1, m.2.normal)) = members :=
        (List.map_congr_left fun m hm => by rw [ih m hm (hmembers m hm), id]).trans
          (List.map_id members)
      have hput : putAll [] members = [] ++ members := putAll_of_sorted hsorted
      rw [normal_object, hmap, ofMembers_eq, hput, List.nil_append]

/-- An object of ascending members has those that it is asked for by name. -/
theorem member?_object_eq_some_iff {members : List (String × Value)}
    (h : members.Pairwise fun m m' => m.1 < m'.1) {name : String} {v : Value} :
    (object members).member? name = some v ↔ (name, v) ∈ members := by
  induction members with
  | nil => simp [member?]
  | cons m members ih =>
      obtain ⟨hfirst, hrest⟩ := List.pairwise_cons.1 h
      obtain ⟨n, w⟩ := m
      by_cases hname : n = name
      · subst hname
        have hlater : (n, v) ∉ members := fun hv => lt_irrefl n (hfirst _ hv)
        simp [member?, hlater, eq_comm]
      · have hstep : (object ((n, w) :: members)).member? name = (object members).member? name := by
          simp [member?, hname]
        simp [hstep, ih hrest, Ne.symm hname]

end ContactBook.Json.Value
