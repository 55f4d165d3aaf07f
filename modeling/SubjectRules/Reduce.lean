import SubjectRules.Answer

/-!
# Reducing a list of deferrable evaluations

Items are evaluated from left to right and combined in the same order, with an early
exit.  As long as evaluations answer at once, each value is combined before the next
item is evaluated.  From the first promised value on, the remaining items are all
evaluated against the state reached so far, their values are awaited together, and
only then combined, again in order.
-/

namespace SubjectRules

inductive Flow (ο σ : Type) where
  | next (state : σ)
  | stop (result : ο)
  deriving DecidableEq, Repr

structure Reducer (ε ι κ σ ο : Type) where
  evaluate : σ → ι → Nat → Logged ε (Answer ε κ)
  combine : σ → κ → Nat → Logged ε (Flow ο σ)
  finish : σ → ο

namespace Reducer

variable {ε ι κ σ ο : Type}

def combineAll (r : Reducer ε ι κ σ ο) : σ → List (κ × Nat) → Logged ε ο
  | state, [] => pure (r.finish state)
  | state, (value, index) :: rest => do
      match ← r.combine state value index with
      | .next state => r.combineAll state rest
      | .stop result => pure result

/-- Evaluates all items against one state. -/
def dispatch (r : Reducer ε ι κ σ ο) (state : σ) : Nat → List ι → Logged ε (List (Promise ε κ))
  | _, [] => pure []
  | index, item :: rest => do
      let answer ← r.evaluate state item index
      let promises ← r.dispatch state (index + 1) rest
      pure (answer.promise :: promises)

def runFrom (r : Reducer ε ι κ σ ο) : σ → Nat → List ι → Logged ε (Answer ε ο)
  | state, _, [] => pure (.now (r.finish state))
  | state, index, item :: rest => do
      match ← r.evaluate state item index with
      | .now value =>
          match ← r.combine state value index with
          | .next state => r.runFrom state (index + 1) rest
          | .stop result => pure (.now result)
      | .later first =>
          let promises ← r.dispatch state (index + 1) rest
          let settled := Promise.all (first :: promises)
          pure (.later (settled.mapLogged fun values => r.combineAll state (values.zipIdx index)))

def run (r : Reducer ε ι κ σ ο) (initial : σ) (items : List ι) : Logged ε (Answer ε ο) :=
  r.runFrom initial 0 items

end Reducer

/-- A reduction whose exit is a state as well: with or without an exit the result is
the state reached. -/
def foldAnswers {ε ι κ σ : Type} (evaluate : σ → ι → Nat → Logged ε (Answer ε κ))
    (combine : σ → κ → Nat → Logged ε (Flow σ σ)) (initial : σ) (items : List ι) :
    Logged ε (Answer ε σ) :=
  Reducer.run ⟨evaluate, combine, id⟩ initial items

end SubjectRules
