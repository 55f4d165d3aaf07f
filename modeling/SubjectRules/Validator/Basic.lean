import SubjectRules.Answer
import SubjectRules.Failure

/-!
# Validators

A validator answers, at once or later, whether a possibly missing value is in order.
Its nullability says what it does with values that are missing or null: it passes
them without looking, it takes missing for null, or it sees them as they are.
-/

namespace SubjectRules

inductive Nullability where
  | skip
  | raw
  | nullifyMissing
  deriving DecidableEq, Repr

namespace Nullability

def wireName : Nullability → String
  | .skip => "skip"
  | .raw => "raw"
  | .nullifyMissing => "nullify_missing"

def shownName : Nullability → String
  | .skip => "Skip"
  | .raw => "Raw"
  | .nullifyMissing => "NullifyMissing"

def ofName? (name : String) : Option Nullability :=
  [skip, raw, nullifyMissing].find? fun n => n.wireName = name

/-- Reads the name, or an object whose only field has that name and holds null. -/
def ofJson? : Json → Option Nullability
  | .str name => ofName? name
  | .obj [(name, .null)] => ofName? name
  | _ => none

def toJson (n : Nullability) : Json := .str n.wireName

end Nullability

structure Validator (ε : Type) where
  nullability : Nullability
  check : Option Json → Logged ε (Answer ε Verdict)

namespace Validator

variable {ε : Type}

/-- Missing and null values pass; the check sees all others. -/
def skipping (check : Json → Logged ε (Answer ε Verdict)) : Validator ε where
  nullability := .skip
  check
    | none => pure (.now none)
    | some .null => pure (.now none)
    | some value => check value

def raw (check : Option Json → Logged ε (Answer ε Verdict)) : Validator ε where
  nullability := .raw
  check

def nullifying (check : Json → Logged ε (Answer ε Verdict)) : Validator ε where
  nullability := .nullifyMissing
  check value := check (value.getD .null)

def relabel (rule : Validator ε) (code : String) : Validator ε :=
  raw fun value => do
    let answer ← rule.check value
    return answer.map fun verdict => verdict.map (Failure.relabel code)

def describe (rule : Validator ε) : String :=
  "Validator \x7b nullability: " ++ rule.nullability.shownName ++ ", .. \x7d"

end Validator

end SubjectRules
