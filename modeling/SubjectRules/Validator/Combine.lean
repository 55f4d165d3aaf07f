import SubjectRules.Validator.Basic
import SubjectRules.Reduce
import SubjectRules.Schema

/-!
# Combining validators

Conjunction and disjunction evaluate their rules in order on one value and may stop
early; negation turns the verdict around.  A combination sees missing and null values
as they are and leaves it to its rules to skip them.
-/

namespace SubjectRules.Validator

variable {ε : Type}

/-- What a conjunction makes of one verdict.  A failure ends it when the first failure
is wanted or when an override stands for all; otherwise violations are collected. -/
def allStep (abortEarly : Bool) (override : Option Failure) (found : List Violation) :
    Verdict → Flow Verdict (List Violation)
  | none => .next found
  | some failure =>
      if abortEarly then .stop (some (override.getD failure))
      else if override.isSome then .stop override
      else .next (found ++ failure.violations)

def allVerdict (found : List Violation) : Verdict :=
  if found.isEmpty then none else some (.many found)

def all (rules : List (Validator ε)) (abortEarly : Bool) (override : Option Failure) :
    Validator ε :=
  raw fun value =>
    Reducer.run
      { evaluate := fun _ rule _ => rule.check value
        combine := fun found verdict _ => pure (allStep abortEarly override found verdict)
        finish := allVerdict }
      [] rules

def anyStep (found : List Violation) : Verdict → Flow Verdict (List Violation)
  | none => .stop none
  | some failure => .next (found ++ failure.violations)

def anyVerdict (override : Option Failure) (found : List Violation) : Verdict :=
  if found.isEmpty then none else some (override.getD (.many found))

def any (rules : List (Validator ε)) (override : Option Failure) : Validator ε :=
  raw fun value =>
    Reducer.run
      { evaluate := fun _ rule _ => rule.check value
        combine := fun found verdict _ => pure (anyStep found verdict)
        finish := anyVerdict override }
      [] rules

def negate (rule : Validator ε) (failure : Failure) : Validator ε :=
  raw fun value => do
    let answer ← rule.check value
    return answer.map fun verdict => if verdict.isSome then none else some failure

def ofLeaf : Leaf (Validator ε) → Validator ε
  | .single rule => rule
  | .chain rules => all rules true none

end SubjectRules.Validator
