import SubjectRules.Pattern.Engine
import SubjectRules.Validator.Basic

/-!
# Requirements

The requirements that a rule document can name.  Each is a condition on a value, says
how it meets missing and null values, and has one violation, which carries the
argument of the requirement as a detail.  Patterns are left to an engine.
-/

namespace SubjectRules

def Json.length? : Json → Option Nat
  | .str s => some s.length
  | .arr items => some items.length
  | _ => none

variable [PatternEngine]

inductive Requirement where
  | required
  | notNull
  | min (bound : Json.Number)
  | max (bound : Json.Number)
  | minLength (bound : Nat)
  | maxLength (bound : Nat)
  | pattern (source : String) (compiled : PatternEngine.Compiled)
  | oneOf (allowed : List Json)
  | startsWith (start : String)
  | endsWith (finish : String)

namespace Requirement

def nullability : Requirement → Nullability
  | .required => .raw
  | .notNull => .nullifyMissing
  | _ => .skip

/-- Whether a value passes once missing and null values have been dealt with. -/
def accepts (value : Json) : Requirement → Bool
  | .required => !value.isNull
  | .notNull => !value.isNull
  | .min bound => value.number?.any fun n => bound.toFloat ≤ n.toFloat
  | .max bound => value.number?.any fun n => n.toFloat ≤ bound.toFloat
  | .minLength bound => value.length?.any (bound ≤ ·)
  | .maxLength bound => value.length?.any (· ≤ bound)
  | .pattern _ compiled => value.string?.any (PatternEngine.isMatch compiled)
  | .oneOf allowed => allowed.any (·.same value)
  | .startsWith start => value.string?.any fun s => start.toList.isPrefixOf s.toList
  | .endsWith finish => value.string?.any fun s => finish.toList.isSuffixOf s.toList

def violation : Requirement → Violation
  | .required => { code := "required" }
  | .notNull => { code := "not-null" }
  | .min bound => Violation.withExtra { code := "min" } "min" (.num bound)
  | .max bound => Violation.withExtra { code := "max" } "max" (.num bound)
  | .minLength bound => Violation.withExtra { code := "min-length" } "min" (Json.ofNat bound)
  | .maxLength bound => Violation.withExtra { code := "max-length" } "max" (Json.ofNat bound)
  | .pattern source _ => Violation.withExtra { code := "pattern" } "pattern" (.str source)
  | .oneOf _ => { code := "one-of" }
  | .startsWith start => Violation.withExtra { code := "starts-with" } "prefix" (.str start)
  | .endsWith finish => Violation.withExtra { code := "ends-with" } "suffix" (.str finish)

def verdict (requirement : Requirement) (value : Json) : Verdict :=
  if requirement.accepts value then none else some (.one requirement.violation)

def validator {ε : Type} (requirement : Requirement) : Validator ε :=
  match requirement.nullability with
  | .skip => Validator.skipping fun value => pure (.now (requirement.verdict value))
  | .raw => Validator.raw fun value => pure (.now (requirement.verdict (Json.ofOption value)))
  | .nullifyMissing => Validator.nullifying fun value => pure (.now (requirement.verdict value))

end Requirement

end SubjectRules
