/-
**What a parameter that should hold a filter is read as.**

A filter is checked condition by condition, and the first condition that is refused fails it.  The
lenient policy refuses nothing but an unknown operator, so a filter that it admits says what was
written: the same fields, in the same order, compared by the operators that were named.

Before the check the text has to be a filter at all, and there the lenient policy gives way: a text
that is none counts as no filter, whether it is no JSON or JSON of another shape.  A filter that is
refused, on the other hand, is never passed over.

Main definitions:

* `ContactBook.WireCondition.Says`, `ContactBook.WireFilter.Says` — a filter that says what was
  written.

Main results:

* `ContactBook.WireFilter.parse_trim` — a text that is a filter is the same filter when it is
  trimmed;
* `ContactBook.Policy.checkFilter_lenient_eq_ok_iff`,
  `ContactBook.Policy.checkFilter_lenient_eq_error_iff` — the lenient check;
* `ContactBook.Policy.parseParameter_lenient` — **what a parameter is read as under the lenient
  policy**.
-/

import ContactBook.Book
import ContactBook.Proofs.Json.Locality
import ContactBook.Proofs.Store.Reachable

set_option autoImplicit false

namespace ContactBook

/-! ### Texts that are filters -/

theorem WireCondition.decoder_isLocal : WireCondition.decoder.IsLocal := by
  refine Json.Decoder.record_isLocal (fun m hm => ?_) _ _ _
  simp only [members, List.mem_cons, List.not_mem_nil, or_false] at hm
  rcases hm with rfl | rfl | rfl
  · exact Json.Decoder.member_isLocal (Json.Decoder.scalar_isLocal _ _) _ _
  · exact Json.Decoder.member_isLocal (Json.Decoder.scalar_isLocal _ _) _ _
  · exact Json.Decoder.member_isLocal Json.Decoder.any_isLocal _ _

namespace WireFilter

/-- **A text that is a filter is the same filter when it is trimmed.** -/
theorem parse_trim {text : String} {r : WireFilter} (h : parse text = .ok r) :
    parse (Text.trim text) = .ok r ∧ Text.trim text ≠ "" := by
  refine Json.decode_record_trim (fun m hm => ?_) h
  simp only [members, List.mem_cons, List.not_mem_nil, or_false] at hm
  rcases hm with rfl | rfl
  · exact Json.Decoder.member_isLocal
      (Json.Decoder.list_isLocal WireCondition.decoder_isLocal) _ _
  · exact Json.Decoder.member_isLocal (Json.Decoder.variant_isLocal _) _ _

/-- The empty text is no filter. -/
theorem parse_empty (r : WireFilter) : parse "" ≠ .ok r := by
  have hempty : (parse "").toOption.isNone = true := by decide +kernel
  intro h
  rw [h] at hempty
  exact Bool.false_ne_true hempty

end WireFilter

/-! ### The check -/

section

variable {policy : Policy} {w : WireFilter}

/-- A filter is admitted with what its conditions are admitted as. -/
theorem Policy.checkFilter_eq_ok_iff {f : Filter} :
    policy.checkFilter w = .ok f ↔
      w.conditions.mapM policy.check = .ok f.conditions ∧ f.connective = w.connective := by
  rw [checkFilter]
  cases w.conditions.mapM policy.check with
  | error r => simp [bind, Except.bind]
  | ok conditions =>
      constructor
      · intro h
        obtain rfl := Except.ok.inj h
        exact ⟨rfl, rfl⟩
      · rintro ⟨hconditions, hconnective⟩
        obtain rfl := Except.ok.inj hconditions
        exact congrArg Except.ok (by rw [← hconnective])

/-- A filter is refused as the first of its conditions that is. -/
theorem Policy.checkFilter_eq_error_iff {r : Refusal} :
    policy.checkFilter w = .error r ↔ w.conditions.mapM policy.check = .error r := by
  rw [checkFilter]
  cases w.conditions.mapM policy.check <;> simp [bind, Except.bind, pure, Except.pure]

end

/-! ### The lenient policy -/

/-- A condition that says what was written: it has the same field, the operator of the name, and the
text of the value. -/
structure WireCondition.Says (w : WireCondition) (c : Condition) : Prop where
  field : c.field = w.field
  operator : Operator.named? w.operator = some c.operator
  value : c.value = w.value.plain

/-- A filter that says what was written, with a condition for each condition. -/
structure WireFilter.Says (w : WireFilter) (f : Filter) : Prop where
  conditions : List.Forall₂ WireCondition.Says w.conditions f.conditions
  connective : f.connective = w.connective

/-- Whether a condition names an operator that is not known. -/
def WireCondition.isUnknown (w : WireCondition) : Bool := (Operator.named? w.operator).isNone

namespace Policy

theorem check_lenient_eq_ok_iff {w : WireCondition} {c : Condition} :
    lenient.check w = .ok c ↔ w.Says c := by
  have hcheck : lenient.check w = .ok c ↔ ∃ o, Operator.named? w.operator = some o ∧
      (⟨w.field, o, w.value.plain⟩ : Condition) = c := by
    simp only [check, Operator.require, bind_eq_ok_iff]
    cases Operator.named? w.operator <;> simp [pure, Except.pure]
  rw [hcheck]
  constructor
  · rintro ⟨o, ho, rfl⟩
    exact ⟨rfl, ho, rfl⟩
  · intro h
    refine ⟨c.operator, h.operator, ?_⟩
    rw [← h.field, ← h.value]

theorem check_lenient_eq_error_iff {w : WireCondition} {r : Refusal} :
    lenient.check w = .error r ↔ w.isUnknown = true ∧ r = .unknownOperator w.operator := by
  unfold check Operator.require WireCondition.isUnknown
  cases Operator.named? w.operator <;> simp [bind, Except.bind, pure, Except.pure, eq_comm]

/-- **What the lenient policy admits says what was written.** -/
theorem checkFilter_lenient_eq_ok_iff {w : WireFilter} {f : Filter} :
    lenient.checkFilter w = .ok f ↔ w.Says f := by
  rw [checkFilter_eq_ok_iff, mapM_eq_ok_iff]
  simp only [check_lenient_eq_ok_iff]
  exact ⟨fun h => ⟨h.1, h.2⟩, fun h => ⟨h.conditions, h.connective⟩⟩

/-- **The lenient policy refuses the first operator that is not known.** -/
theorem checkFilter_lenient_eq_error_iff {w : WireFilter} {r : Refusal} :
    lenient.checkFilter w = .error r ↔
      ∃ c, w.conditions.find? WireCondition.isUnknown = some c ∧
        r = .unknownOperator c.operator := by
  have hrefused : (fun c => !(lenient.check c).isOk) = WireCondition.isUnknown := by
    funext c
    unfold check Operator.require WireCondition.isUnknown
    cases Operator.named? c.operator <;> rfl
  rw [checkFilter_eq_error_iff, mapM_eq_error_iff, hrefused]
  refine exists_congr fun c => and_congr_right fun hfind => ?_
  rw [check_lenient_eq_error_iff]
  exact and_iff_right (List.find?_some hfind)

/-! ### The parameter -/

variable {policy : Policy} {text : String}

theorem parseParameter_of_blank (h : Text.trim text = "") :
    policy.parseParameter (some text) = .ok none := by
  have hnone : ((some text).map Text.trim).filter (fun t => !t.isEmpty) = none := by simp [h]
  rw [parseParameter, hnone]

theorem filter_trim_of_ne_empty (h : Text.trim text ≠ "") :
    ((some text).map Text.trim).filter (fun t => !t.isEmpty) = some (Text.trim text) := by
  simp [h]

/-- A filter in a parameter is checked. -/
theorem parseParameter_of_parse {w : WireFilter} (h : WireFilter.parse (Text.trim text) = .ok w) :
    policy.parseParameter (some text) =
      ((policy.checkFilter w).map some).mapError Refusal.fault := by
  have hwritten : Text.trim text ≠ "" := by
    intro hblank
    rw [hblank] at h
    exact WireFilter.parse_empty w h
  rw [parseParameter, filter_trim_of_ne_empty hwritten]
  simp only [h]

/-- A text that is no filter is passed over by the lenient policy. -/
theorem parseParameter_lenient_of_not_parse {failure : Json.Failure}
    (h : WireFilter.parse (Text.trim text) = .error failure) :
    lenient.parseParameter (some text) = .ok none := by
  by_cases hblank : Text.trim text = ""
  · exact parseParameter_of_blank hblank
  · rw [parseParameter, filter_trim_of_ne_empty hblank]
    simp only [h]

/-- **What a parameter is read as under the lenient policy.**  It counts as no filter if it is
absent or if what is left between its blanks is no filter: if it is nothing, no JSON, or JSON of
another shape.  If it is a filter, then it is read as a filter that says what is written, unless an
operator of it is unknown; the first such operator is reported. -/
theorem parseParameter_lenient (parameter : Option String) :
    (lenient.parseParameter parameter = .ok none ↔
        ∀ text ∈ parameter, ∃ failure, WireFilter.parse (Text.trim text) = .error failure) ∧
      (∀ f, lenient.parseParameter parameter = .ok (some f) ↔
        ∃ text ∈ parameter, ∃ w, WireFilter.parse (Text.trim text) = .ok w ∧ w.Says f) ∧
      ∀ fault, lenient.parseParameter parameter = .error fault ↔
        ∃ text ∈ parameter, ∃ w, WireFilter.parse (Text.trim text) = .ok w ∧
          ∃ c, w.conditions.find? WireCondition.isUnknown = some c ∧
            fault = .invalid ("'" ++ c.operator ++ "' is not a supported operator") := by
  cases parameter with
  | none => simp [parseParameter]
  | some text =>
      simp only [Option.mem_def, Option.some.injEq, forall_eq', exists_eq_left']
      cases hparse : WireFilter.parse (Text.trim text) with
      | error failure => simp [parseParameter_lenient_of_not_parse hparse]
      | ok w =>
          have hfaults : ∀ fault : Fault,
              (∃ c, w.conditions.find? WireCondition.isUnknown = some c ∧
                fault = .invalid ("'" ++ c.operator ++ "' is not a supported operator")) ↔
              ∃ r, lenient.checkFilter w = .error r ∧ fault = r.fault := by
            intro fault
            constructor
            · rintro ⟨c, hfind, rfl⟩
              exact ⟨_, checkFilter_lenient_eq_error_iff.2 ⟨c, hfind, rfl⟩, rfl⟩
            · rintro ⟨r, hr, rfl⟩
              obtain ⟨c, hfind, rfl⟩ := checkFilter_lenient_eq_error_iff.1 hr
              exact ⟨c, hfind, rfl⟩
          rw [parseParameter_of_parse hparse]
          simp only [Except.ok.injEq, exists_eq_left', ← checkFilter_lenient_eq_ok_iff, hfaults]
          cases lenient.checkFilter w with
          | error r => simp [Except.map, Except.mapError, eq_comm]
          | ok f => simp [Except.map, Except.mapError]

/-- **JSON of another shape shows all contacts.**  The operator of this filter is a list.  The text
is JSON, and the strict policy refuses it; the lenient policy reads it as no filter, and the listing
shows a contact that has no e-mail address.  With the operator as a string the listing is empty. -/
theorem parseParameter_of_listed_operator :
    let b : Book := { policy := .lenient, store := .twoOffices }
    let text := "\x7b\"conditions\":[\x7b\"field\":\"email\",\"operator\":[\"equals\"]," ++
      "\"value\":\"a\"\x7d]\x7d"
    let meant : Option Filter := some ⟨[⟨"email", .equals, "a"⟩], .all⟩
    (∃ v, Json.parse text = .ok v) ∧ Text.trim text ≠ "" ∧
      (strict.parseParameter (some text) = .error (.invalid
        "filters is not a valid filter: invalid type: sequence, expected a string")) ∧
      b.policy.parseParameter (some text) = .ok none ∧
      b.listIds newYear "globex" none none = .ok ["g1"] ∧
      b.listIds newYear "globex" meant none = .ok [] := by
  intro b text meant
  have hjson : (Json.parse text).toOption.isSome = true := by decide +kernel
  refine ⟨?_, by decide +kernel, by decide +kernel, by decide +kernel, by decide +kernel,
    by decide +kernel⟩
  cases hparse : Json.parse text with
  | error failure => simp [hparse, Except.toOption] at hjson
  | ok v => exact ⟨v, rfl⟩

end Policy

end ContactBook
