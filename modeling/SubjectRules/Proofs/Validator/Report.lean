import SubjectRules.Proofs.Reduce.Trace
import SubjectRules.Proofs.Validator.Boolean

/-!
# What combinations report

What a conjunction or a disjunction reports is told by the verdicts of its rules alone: an
override, the first failure, or all violations in the order of the rules.  When all answers are
there at once, the rules are asked in order up to the one that settles the outcome.
-/

namespace SubjectRules

variable {ε : Type}

namespace Validator

variable {rules : List (Validator ε)} {value : Option Json}

/-! ## Verdicts -/

theorem verdict_all_of_override (rules : List (Validator ε)) (value : Option Json)
    (abortEarly : Bool) (override : Failure) :
    (all rules abortEarly (some override)).verdict value =
      if ∃ rule ∈ rules, (rule.verdict value).isSome then some override else none := by
  rw [verdict_all_of_ends (by simp)]
  cases hfirst : rules.findSome? fun rule => rule.verdict value with
  | none =>
      rw [List.findSome?_eq_none_iff] at hfirst
      rw [if_neg]
      · rfl
      · rintro ⟨rule, hrule, hfails⟩
        simp [hfirst rule hrule] at hfails
  | some failure =>
      have hfails := congrArg Option.isSome hfirst
      rw [if_pos (List.findSome?_isSome_iff.mp hfails)]
      rfl

theorem verdict_any_eq (rules : List (Validator ε)) (value : Option Json)
    (override : Option Failure) :
    (any rules override).verdict value =
      if rules = [] ∨ (∃ rule ∈ rules, rule.verdict value = none) ∨ reported rules value = [] then
        none
      else some (override.getD (.many (reported rules value))) := by
  split
  case isTrue hpasses =>
    rw [verdict_any_eq_none_iff]
    rcases hpasses with rfl | hpasses
    · exact .inr rfl
    · exact hpasses
  case isFalse hfails =>
    simp only [not_or, not_exists, not_and] at hfails
    obtain ⟨-, hfails, hreported⟩ := hfails
    rw [verdict_any_of_fails override hfails, anyVerdict, if_neg (by simpa using hreported)]

/-! ## The rules that are asked -/

theorem asksUpTo_all (rules : List (Validator ε)) (value : Option Json) (abortEarly : Bool)
    (override : Option Failure) :
    AsksUpTo ((all rules abortEarly override).check value) (fun rule => rule.check value)
      (fun rule => (abortEarly || override.isSome) && (rule.verdict value).isSome) rules := by
  have hsettles : ∀ (found : List Violation) (rule : Validator ε),
      (allStep abortEarly override found (rule.verdict value)).isStop =
        ((abortEarly || override.isSome) && (rule.verdict value).isSome) := by
    intro found rule
    cases rule.verdict value with
    | none => cases abortEarly <;> cases override <;> rfl
    | some failure => cases abortEarly <;> cases override <;> rfl
  exact Reducer.asksUpTo_runFrom (fun _ _ _ => rfl) (fun _ _ _ => rfl) hsettles [] 0 rules

theorem asksUpTo_any (rules : List (Validator ε)) (value : Option Json)
    (override : Option Failure) :
    AsksUpTo ((any rules override).check value) (fun rule => rule.check value)
      (fun rule => (rule.verdict value).isNone) rules := by
  have hsettles : ∀ (found : List Violation) (rule : Validator ε),
      (anyStep found (rule.verdict value)).isStop = (rule.verdict value).isNone := by
    intro found rule
    cases rule.verdict value <;> rfl
  exact Reducer.asksUpTo_runFrom (fun _ _ _ => rfl) (fun _ _ _ => rfl) hsettles [] 0 rules

/-! ## Both -/

/-- With an override, a conjunction reports it as soon as a rule fails.  Else it reports the first
failure as it is, or all violations when it does not end early.  A disjunction reports its
override, or all violations, when no rule passes and there are any violations at all.  A run whose
answers are there at once asks the rules up to the one that settles the outcome. -/
theorem combinations_report (rules : List (Validator ε)) (value : Option Json) :
    (∀ abortEarly override, (all rules abortEarly (some override)).verdict value =
        if ∃ rule ∈ rules, (rule.verdict value).isSome then some override else none) ∧
      (all rules true none).verdict value = (rules.findSome? fun rule => rule.verdict value) ∧
      ((all rules false none).verdict value =
        if reported rules value = [] then none else some (.many (reported rules value))) ∧
      (∀ override, (any rules override).verdict value =
        if rules = [] ∨ (∃ rule ∈ rules, rule.verdict value = none) ∨
          reported rules value = [] then none
        else some (override.getD (.many (reported rules value)))) ∧
      (∀ abortEarly override, AsksUpTo ((all rules abortEarly override).check value)
        (fun rule => rule.check value)
        (fun rule => (abortEarly || override.isSome) && (rule.verdict value).isSome) rules) ∧
      ∀ override, AsksUpTo ((any rules override).check value) (fun rule => rule.check value)
        (fun rule => (rule.verdict value).isNone) rules := by
  refine ⟨verdict_all_of_override rules value, verdict_all_first rules value, ?_,
    verdict_any_eq rules value, asksUpTo_all rules value, asksUpTo_any rules value⟩
  rw [verdict_all_collecting, allVerdict]
  simp only [List.isEmpty_iff]

end Validator

end SubjectRules
