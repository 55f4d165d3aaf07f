import SubjectRules.FailureTree
import SubjectRules.Transformer.Basic
import SubjectRules.Validator.Combine
import SubjectRules.Walk

/-!
# Validating and transforming an object

Both walk a schema beside the object.  A branch whose value is missing or null is left
out, so rules below it neither run nor fail; a branch beside any other value that is
no object is walked beside nothing.
-/

namespace SubjectRules

def isNothing : Option Json → Bool
  | none => true
  | some value => value.isNull

variable {ε : Type}

def validation (subject : Json.Fields) (abortEarly : Bool) : Walk ε (Validator ε) Failure where
  ask rules value := (Validator.ofLeaf rules).check value
  encode := Failure.toJson
  prune _ value := pure (isNothing value)
  isMatch _ := pure abortEarly
  related := some subject

/-- The failures of an object against a schema: all of them, or the first alone. -/
def validate (subject : Json.Fields) (schema : Schema (Validator ε)) (abortEarly : Bool) :
    Logged ε (Answer ε (Option FailureTree)) := do
  let answer ← (validation subject abortEarly).run schema
  return answer.map fun failures => failures.map FailureTree.mk

def transformation (subject : Json.Fields) : Walk ε (Transformer ε) Json where
  ask rules value := (Transformer.ofLeaf rules).apply value
  encode := id
  prune _ value := pure (isNothing value)
  related := some subject
  seed := some subject

def transform (subject : Json.Fields) (schema : Schema (Transformer ε)) :
    Logged ε (Answer ε Json.Fields) := do
  let answer ← (transformation subject).run schema
  return answer.map fun fields => fields.getD []

end SubjectRules
