import SubjectRules.Proofs.Reduce
import SubjectRules.Validator.Combine

/-!
# Verdicts

The verdict of a validator is what its answer resolves to.  A chain has the verdict of
the first of its rules that fails, unchanged.
-/

namespace SubjectRules.Validator

variable {ε : Type}

def verdict (rule : Validator ε) (value : Option Json) : Verdict := (rule.check value).value.value

/-- The verdict of a leaf: that of its rule, or the first failure of its chain. -/
def leafVerdict : Leaf (Validator ε) → Option Json → Verdict
  | .single rule, value => rule.verdict value
  | .chain rules, value => rules.findSome? fun rule => rule.verdict value

theorem verdict_all_first (rules : List (Validator ε)) (value : Option Json) :
    (all rules true none).verdict value = rules.findSome? fun rule => rule.verdict value := by
  have hvalues : ∀ (state : List Violation) (rule : Validator ε) (_ : Nat),
      (rule.check value).value.value = rule.verdict value := fun _ _ _ => rfl
  rw [verdict, all, raw, Reducer.value_run (fun rule _ => rule.verdict value) hvalues]
  generalize 0 = index
  induction rules generalizing index with
  | nil => rfl
  | cons rule rest ih =>
      rw [Reducer.evaluated_cons, List.findSome?_cons, Reducer.combineAll, Logged.value_bind]
      cases rule.verdict value with
      | none => exact ih (index + 1)
      | some failure => rfl

theorem verdict_ofLeaf (rules : Leaf (Validator ε)) (value : Option Json) :
    (ofLeaf rules).verdict value = leafVerdict rules value := by
  cases rules with
  | single rule => rfl
  | chain rules => exact verdict_all_first rules value

/-! ## Combinations -/

theorem verdict_all (rules : List (Validator ε)) (abortEarly : Bool) (override : Option Failure)
    (value : Option Json) :
    (all rules abortEarly override).verdict value =
      Reducer.foldUntil (allStep abortEarly override) allVerdict []
        (rules.map fun rule => rule.verdict value) :=
  Reducer.value_run_eq_foldUntil (fun _ _ _ => rfl) (fun _ _ _ => rfl) [] rules

theorem verdict_any (rules : List (Validator ε)) (override : Option Failure)
    (value : Option Json) :
    (any rules override).verdict value =
      Reducer.foldUntil anyStep (anyVerdict override) []
        (rules.map fun rule => rule.verdict value) :=
  Reducer.value_run_eq_foldUntil (fun _ _ _ => rfl) (fun _ _ _ => rfl) [] rules

theorem verdict_negate (rule : Validator ε) (failure : Failure) (value : Option Json) :
    (rule.negate failure).verdict value =
      if (rule.verdict value).isSome then none else some failure := by
  rw [verdict, negate, raw, Logged.value_bind, Logged.value_pure, Answer.value_map]
  rfl

theorem verdict_relabel (rule : Validator ε) (code : String) (value : Option Json) :
    (rule.relabel code).verdict value = (rule.verdict value).map (Failure.relabel code) := by
  rw [verdict, relabel, raw, Logged.value_bind, Logged.value_pure, Answer.value_map]
  rfl

/-! ## Leaves given by their verdicts -/

def firstFailure : Leaf (Option Json → Verdict) → Option Json → Verdict
  | .single verdict, value => verdict value
  | .chain verdicts, value => verdicts.findSome? fun verdict => verdict value

theorem leafVerdict_eq_firstFailure (rules : Leaf (Validator ε)) (value : Option Json) :
    leafVerdict rules value = firstFailure (rules.map verdict) value := by
  cases rules with
  | single rule => rfl
  | chain rules =>
      rw [Leaf.map, firstFailure, List.findSome?_map]
      rfl

end SubjectRules.Validator
