/-
**What the two policies admit.**

Both policies go through the conditions of a filter one by one.  They ask for different things and
look at them in a different order, but where both admit a condition they make the same of it: the
strict policy refuses more and changes nothing.  A filter that is refused is refused for its first
bad condition, and what comes behind that condition does not matter.

A filter that the strict policy admits has registered fields only.  None of its conditions is passed
over later, so it binds a value for each of them.

Main definitions:

* `ContactBook.WireCondition.Admissible` — **the reference**: what a policy asks of a condition;
* `ContactBook.WireCondition.Refused` — why a policy refuses a condition, by the first thing it
  misses.

Main results:

* `ContactBook.Policy.check_strict_eq_ok_iff` — **the strict policy refines the lenient one**;
* `ContactBook.Policy.check_eq_ok_iff`, `ContactBook.Policy.check_eq_error_iff` — the check of one
  condition under either policy;
* `ContactBook.Policy.checkFilter_eq_error_append_iff` — the refusal of a filter is that of its
  first bad condition;
* `ContactBook.Query.params_compile_of_registered` — a filter on registered fields binds a value for
  each condition;
* `ContactBook.Policy.checkFilter_admits` — **the check of a filter**, all together.
-/

import ContactBook.Proofs.Filter.Parameter
import ContactBook.Proofs.Query.Text

set_option autoImplicit false

namespace ContactBook

/-! ### The reference -/

/-- **What a policy asks of a condition**: a known operator, and under the strict policy also a
registered field and a value that is a string, a truth value or a number. -/
structure WireCondition.Admissible (policy : Policy) (w : WireCondition) : Prop where
  operator : w.operator ∈ ["equals", "contains", "startsWith", "endsWith"]
  field : policy = .strict → Field.isRegistered w.field = true
  value : policy = .strict → w.value.isScalar = true

/-- **Why a policy refuses a condition.**  The strict policy looks at the field first and at the
value last. -/
inductive WireCondition.Refused (policy : Policy) (w : WireCondition) : Refusal → Prop
  | field (hp : policy = .strict) (hf : Field.isRegistered w.field = false) :
      Refused policy w (.unknownField w.field)
  | operator (hf : policy = .strict → Field.isRegistered w.field = true)
      (ho : w.operator ∉ ["equals", "contains", "startsWith", "endsWith"]) :
      Refused policy w (.unknownOperator w.operator)
  | value (hp : policy = .strict) (hf : Field.isRegistered w.field = true)
      (ho : w.operator ∈ ["equals", "contains", "startsWith", "endsWith"])
      (hv : w.value.isScalar = false) : Refused policy w (.notScalar w.field)

/-! ### One condition -/

/-- The names of the operators are known, and no others. -/
theorem Operator.exists_named?_iff {name : String} :
    (∃ o, named? name = some o) ↔ name ∈ ["equals", "contains", "startsWith", "endsWith"] := by
  constructor
  · rintro ⟨o, ho⟩
    rw [← name_of_named? ho]
    cases o <;> decide
  · intro h
    rw [← Option.isSome_iff_exists]
    simp only [List.mem_cons, List.not_mem_nil, or_false] at h
    rcases h with rfl | rfl | rfl | rfl <;> decide +kernel

theorem WireCondition.isUnknown_iff {w : WireCondition} :
    w.isUnknown = true ↔ w.operator ∉ ["equals", "contains", "startsWith", "endsWith"] := by
  rw [isUnknown, Option.isNone_iff_eq_none, ← Operator.exists_named?_iff,
    Option.eq_none_iff_forall_ne_some, not_exists]

namespace Policy

variable {policy : Policy} {w : WireCondition} {c : Condition} {r : Refusal}

/-- What the strict policy does with a condition, by the three things it looks at. -/
theorem check_strict (w : WireCondition) :
    strict.check w =
      if Field.isRegistered w.field = false then .error (.unknownField w.field)
      else if w.isUnknown = true then .error (.unknownOperator w.operator)
      else if w.value.isScalar = false then .error (.notScalar w.field)
      else lenient.check w := by
  unfold check Operator.require WireCondition.isUnknown Json.Value.plainScalar?
  cases Field.isRegistered w.field with
  | false => rfl
  | true =>
      cases Operator.named? w.operator with
      | none => rfl
      | some o => cases w.value.isScalar <;> rfl

/-- **The strict policy refines the lenient one**: it asks for more, and it makes the same of what
it admits. -/
theorem check_strict_eq_ok_iff :
    strict.check w = .ok c ↔ Field.isRegistered w.field = true ∧ w.value.isScalar = true ∧
      lenient.check w = .ok c := by
  have hknown : lenient.check w = .ok c → w.isUnknown ≠ true := by
    intro h hunknown
    rw [check_lenient_eq_error_iff.2 ⟨hunknown, rfl⟩] at h
    exact nomatch h
  rw [check_strict]
  constructor
  · intro h
    split_ifs at h with hf ho hv
    exact ⟨by simpa using hf, by simpa using hv, h⟩
  · rintro ⟨hf, hv, h⟩
    rw [if_neg (by simp [hf]), if_neg (hknown h), if_neg (by simp [hv]), h]

/-- **What either policy admits** says what was written. -/
theorem check_eq_ok_iff : policy.check w = .ok c ↔ w.Admissible policy ∧ w.Says c := by
  have hoperator : w.Says c → w.operator ∈ ["equals", "contains", "startsWith", "endsWith"] :=
    fun h => Operator.exists_named?_iff.1 ⟨_, h.operator⟩
  cases policy with
  | lenient =>
      rw [check_lenient_eq_ok_iff]
      exact ⟨fun h => ⟨⟨hoperator h, nofun, nofun⟩, h⟩, fun h => h.2⟩
  | strict =>
      rw [check_strict_eq_ok_iff, check_lenient_eq_ok_iff]
      constructor
      · rintro ⟨hf, hv, h⟩
        exact ⟨⟨hoperator h, fun _ => hf, fun _ => hv⟩, h⟩
      · rintro ⟨hadmissible, h⟩
        exact ⟨hadmissible.field rfl, hadmissible.value rfl, h⟩

/-- **What either policy refuses**, and why. -/
theorem check_eq_error_iff : policy.check w = .error r ↔ w.Refused policy r := by
  cases policy with
  | lenient =>
      rw [check_lenient_eq_error_iff, WireCondition.isUnknown_iff]
      constructor
      · rintro ⟨ho, rfl⟩
        exact .operator nofun ho
      · intro h
        cases h with
        | field hp _ => exact nomatch hp
        | operator _ ho => exact ⟨ho, rfl⟩
        | value hp _ _ _ => exact nomatch hp
  | strict =>
      rw [check_strict]
      constructor
      · intro h
        split_ifs at h with hf ho hv
        · obtain rfl := Except.error.inj h
          exact .field rfl hf
        · obtain rfl := Except.error.inj h
          exact .operator (fun _ => by simpa using hf) (WireCondition.isUnknown_iff.1 ho)
        · obtain rfl := Except.error.inj h
          refine .value rfl (by simpa using hf) ?_ hv
          exact Decidable.of_not_not (mt WireCondition.isUnknown_iff.2 ho)
        · exact absurd (check_lenient_eq_error_iff.1 h).1 ho
      · intro h
        cases h with
        | field _ hf => rw [if_pos hf]
        | operator hf ho =>
            rw [if_neg (by simp [hf rfl]), if_pos (WireCondition.isUnknown_iff.2 ho)]
        | value _ hf ho hv =>
            rw [if_neg (by simp [hf]), if_neg fun hu => WireCondition.isUnknown_iff.1 hu ho,
              if_pos hv]

/-- A condition that asks for nothing more is admitted. -/
theorem isOk_check_iff : (policy.check w).isOk = true ↔ w.Admissible policy := by
  cases hcheck : policy.check w with
  | ok c => exact ⟨fun _ => (check_eq_ok_iff.1 hcheck).1, fun _ => rfl⟩
  | error r =>
      refine ⟨nofun, fun h => ?_⟩
      -- a refusal names something that is missed
      cases check_eq_error_iff.1 hcheck with
      | field hp hf => simp [h.field hp] at hf
      | operator _ ho => exact absurd h.operator ho
      | value hp _ _ hv => simp [h.value hp] at hv

end Policy

/-! ### Filters -/

namespace Policy

variable {policy : Policy} {w : WireFilter}

theorem checkFilter_eq_ok_iff_says_written {f : Filter} :
    policy.checkFilter w = .ok f ↔ (∀ c ∈ w.conditions, c.Admissible policy) ∧ w.Says f := by
  have hboth : ∀ {ws : List WireCondition} {cs : List Condition},
      List.Forall₂ (fun w c => policy.check w = .ok c) ws cs ↔
        (∀ w ∈ ws, w.Admissible policy) ∧ List.Forall₂ WireCondition.Says ws cs := by
    intro ws cs
    simp only [check_eq_ok_iff, List.forall₂_and_left]
  rw [checkFilter_eq_ok_iff, mapM_eq_ok_iff, hboth, and_assoc]
  exact and_congr_right fun _ => ⟨fun h => ⟨h.1, h.2⟩, fun h => ⟨h.conditions, h.connective⟩⟩

/-- A filter of conditions that are all admissible is admitted. -/
theorem exists_checkFilter_eq_ok_iff :
    (∃ f, policy.checkFilter w = .ok f) ↔ ∀ c ∈ w.conditions, c.Admissible policy := by
  refine ⟨fun ⟨f, hf⟩ => (checkFilter_eq_ok_iff_says_written.1 hf).1, fun h => ?_⟩
  cases hcheck : policy.checkFilter w with
  | ok f => exact ⟨f, rfl⟩
  | error r =>
      obtain ⟨c, hfind, hc⟩ := mapM_eq_error_iff.1 (checkFilter_eq_error_iff.1 hcheck)
      have hadmitted := isOk_check_iff.2 (h c (List.mem_of_find?_eq_some hfind))
      rw [hc] at hadmitted
      exact nomatch hadmitted

/-- **The refusal of a filter is that of its first bad condition**, whatever comes behind it. -/
theorem checkFilter_eq_error_append_iff {r : Refusal} :
    policy.checkFilter w = .error r ↔
      ∃ before c after, w.conditions = before ++ c :: after ∧
        (∀ b ∈ before, b.Admissible policy) ∧ c.Refused policy r := by
  rw [checkFilter_eq_error_iff, mapM_eq_error_iff]
  simp only [List.find?_eq_some_iff_append, check_eq_error_iff, Bool.not_not, isOk_check_iff]
  constructor
  · rintro ⟨c, ⟨-, before, after, happend, hbefore⟩, hc⟩
    exact ⟨before, c, after, happend, hbefore, hc⟩
  · rintro ⟨before, c, after, happend, hbefore, hc⟩
    refine ⟨c, ⟨?_, before, after, happend, hbefore⟩, hc⟩
    rw [check_eq_error_iff.2 hc]
    rfl

end Policy

/-! ### The values that a filter binds -/

/-- A filter on registered fields binds the values of all its conditions, behind the organisation.
-/
theorem Query.params_compile_of_registered {f : Filter}
    (h : ∀ c ∈ f.conditions, Field.isRegistered c.field = true) (tenant : String) :
    (Query.compile tenant (some f)).clause.render.params =
      tenant :: f.conditions.map Condition.bound := by
  have hregistered : ∀ cs : List Condition, (∀ c ∈ cs, Field.isRegistered c.field = true) →
      (cs.filterMap fun c => (Field.named? c.field).map fun field => (field, c)).map (·.2.bound) =
        cs.map Condition.bound := by
    intro cs hcs
    induction cs with
    | nil => rfl
    | cons c cs ih =>
        obtain ⟨field, hfield⟩ := Option.isSome_iff_exists.1 (hcs c List.mem_cons_self)
        rw [List.filterMap_cons, hfield]
        exact congrArg (c.bound :: ·) (ih fun c' hc' => hcs c' (List.mem_cons_of_mem _ hc'))
  rw [render_compile]
  exact congrArg (tenant :: ·) (hregistered f.conditions h)

/-- What the strict policy admits has registered fields only. -/
theorem Policy.isRegistered_of_checkFilter_strict {w : WireFilter} {f : Filter}
    (h : strict.checkFilter w = .ok f) : ∀ c ∈ f.conditions, Field.isRegistered c.field = true := by
  intro c hc
  obtain ⟨written, -, hcheck⟩ := (mem_of_mapM_eq_ok (checkFilter_eq_ok_iff.1 h).1 c).1 hc
  obtain ⟨hadmissible, hsaid⟩ := check_eq_ok_iff.1 hcheck
  rw [hsaid.field]
  exact hadmissible.field rfl

/-! ### All together -/

namespace Policy

/-- **The check of a filter.**  A policy admits a filter if it admits each condition, and then the
filter says what was written: it has the same connective, and place by place the same field, the
operator of the name and the text of the value.  What the strict policy admits, the lenient one
admits as the same filter.  A filter that is refused is refused as invalid for its first bad
condition, whatever comes behind it.  A filter that the strict policy admits binds one value for
each condition that was written, and the organisation. -/
theorem checkFilter_admits (w : WireFilter) :
    (∀ policy : Policy, (∃ f, policy.checkFilter w = .ok f) ↔
        ∀ c ∈ w.conditions, c.Admissible policy) ∧
      (∀ (policy : Policy) (f : Filter), policy.checkFilter w = .ok f → w.Says f) ∧
      (∀ f, strict.checkFilter w = .ok f → lenient.checkFilter w = .ok f) ∧
      (∀ (policy : Policy) (fault : Fault),
        (policy.checkFilter w).mapError Refusal.fault = .error fault ↔
          ∃ before c after r, w.conditions = before ++ c :: after ∧
            (∀ b ∈ before, b.Admissible policy) ∧ c.Refused policy r ∧
              fault = .invalid r.message) ∧
      ∀ f, strict.checkFilter w = .ok f → ∀ tenant,
        (Query.compile tenant (some f)).clause.render.params.length = 1 + w.conditions.length := by
  refine ⟨fun _ => exists_checkFilter_eq_ok_iff,
    fun _ f hf => (checkFilter_eq_ok_iff_says_written.1 hf).2, fun f hf => ?_,
    fun policy fault => ?_, fun f hf tenant => ?_⟩
  · exact checkFilter_lenient_eq_ok_iff.2 (checkFilter_eq_ok_iff_says_written.1 hf).2
  · have hfault : (policy.checkFilter w).mapError Refusal.fault = .error fault ↔
        ∃ r, policy.checkFilter w = .error r ∧ fault = .invalid r.message := by
      cases policy.checkFilter w with
      | ok f => simp [Except.mapError]
      | error r => simp [Except.mapError, Refusal.fault, eq_comm]
    rw [hfault]
    constructor
    · rintro ⟨r, hr, hmessage⟩
      obtain ⟨before, c, after, happend, hbefore, hc⟩ := checkFilter_eq_error_append_iff.1 hr
      exact ⟨before, c, after, r, happend, hbefore, hc, hmessage⟩
    · rintro ⟨before, c, after, r, happend, hbefore, hc, hmessage⟩
      exact ⟨r, checkFilter_eq_error_append_iff.2 ⟨before, c, after, happend, hbefore, hc⟩,
        hmessage⟩
  · have hlength := (checkFilter_eq_ok_iff_says_written.1 hf).2.conditions.length_eq
    rw [Query.params_compile_of_registered (isRegistered_of_checkFilter_strict hf) tenant,
      List.length_cons, List.length_map, hlength, Nat.add_comm]

/-- The strict policy refuses the second condition of a filter and does not look at the third, which
has an unknown operator.  The lenient policy does not mind the second and refuses the third.  Of the
first condition alone both make the same, and it binds one value behind the organisation. -/
theorem checkFilter_admits_shoeSize :
    let city : WireCondition := ⟨"city", "contains", .number (.integer 5)⟩
    let w : WireFilter := ⟨[city, ⟨"shoeSize", "equals", .null⟩, ⟨"city", "like", .null⟩], .any⟩
    let alone : Filter := ⟨[⟨"city", .contains, "5"⟩], .any⟩
    (strict.checkFilter w).mapError Refusal.fault =
        .error (.invalid "'shoeSize' is not a filterable field") ∧
      (lenient.checkFilter w).mapError Refusal.fault =
        .error (.invalid "'like' is not a supported operator") ∧
      strict.checkFilter ⟨[city], .any⟩ = .ok alone ∧
      lenient.checkFilter ⟨[city], .any⟩ = .ok alone ∧
      (Query.compile "acme" (some alone)).clause.render.params.length = 2 := by
  intro city w alone
  have hcity : city.Admissible strict :=
    ⟨by decide, fun _ => by decide +kernel, fun _ => by decide⟩
  have halone : strict.checkFilter ⟨[city], .any⟩ = .ok alone := by decide +kernel
  obtain ⟨-, -, hrefines, -, hbinds⟩ := checkFilter_admits ⟨[city], .any⟩
  obtain ⟨-, -, -, hrefused, -⟩ := checkFilter_admits w
  refine ⟨(hrefused strict _).2 ⟨[city], _, _, _, rfl, ?_, .field rfl (by decide +kernel), rfl⟩,
    (hrefused lenient _).2 ⟨[city, _], _, [], _, rfl, ?_, .operator nofun (by decide), rfl⟩,
    halone, hrefines alone halone, hbinds alone halone "acme"⟩
  · rintro b hb
    rw [List.mem_singleton.1 hb]
    exact hcity
  · rintro b hb
    rcases List.mem_pair.1 hb with rfl | rfl
    · exact ⟨hcity.operator, nofun, nofun⟩
    · exact ⟨by decide, nofun, nofun⟩

end Policy

end ContactBook
