import SubjectRules.Answer
import SubjectRules.Json.Text
import SubjectRules.Schema

/-!
# Transformers

A transformer makes a value, or none, of a possibly missing value.  Transformers in a
pipe run one after another, each on what the one before it made.
-/

namespace SubjectRules

structure Transformer (ε : Type) where
  apply : Option Json → Logged ε (Answer ε (Option Json))

namespace Transformer

variable {ε : Type}

/-- Missing and null values pass unchanged; the function sees all others. -/
def skipping (apply : Json → Logged ε (Answer ε Json)) : Transformer ε where
  apply
    | none => pure (.now none)
    | some .null => pure (.now (some .null))
    | some value => do
        let answer ← apply value
        return answer.map some

def raw (apply : Option Json → Logged ε (Answer ε (Option Json))) : Transformer ε where
  apply

def pipe (steps : List (Transformer ε)) : Transformer ε :=
  raw fun value => steps.foldlM (fun current step => current.andThen step.apply) (.now value)

def ofLeaf : Leaf (Transformer ε) → Transformer ε
  | .single rule => rule
  | .chain rules => pipe rules

def describe (_ : Transformer ε) : String := "Transformer(..)"

end Transformer

end SubjectRules
