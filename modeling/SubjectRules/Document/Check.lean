import SubjectRules.Validator.Combine
import SubjectRules.Validator.Requirement

/-!
# Checks

A check is a requirement or a Boolean combination of checks, as a rule document writes
it.  Its validator is made of the validators of its parts.  A code of its own replaces
the codes of what it reports.
-/

namespace SubjectRules

variable [PatternEngine]

inductive Check where
  | basic (requirement : Requirement) (code : Option String)
  | allOf (parts : List Check) (code : Option String)
  | anyOf (parts : List Check) (code : Option String)
  | negation (part : Check) (code : Option String)

namespace Check

def basicValidator {ε : Type} (requirement : Requirement) : Option String → Validator ε
  | none => requirement.validator
  | some code => requirement.validator.relabel code

def negationFailure (code : Option String) : Failure := Failure.ofCode (code.getD "not")

mutual

def validator {ε : Type} : Check → Validator ε
  | .basic requirement code => basicValidator requirement code
  | .allOf parts code => Validator.all (validators parts) true (code.map Failure.ofCode)
  | .anyOf parts code => Validator.any (validators parts) (code.map Failure.ofCode)
  | .negation part code => Validator.negate (validator part) (negationFailure code)

def validators {ε : Type} : List Check → List (Validator ε)
  | [] => []
  | part :: rest => validator part :: validators rest

end

end Check

end SubjectRules
