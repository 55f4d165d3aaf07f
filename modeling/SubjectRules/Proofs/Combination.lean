import SubjectRules.Proofs.Announced
import SubjectRules.Proofs.Transformer.Output
import SubjectRules.Proofs.Validator.Verdict

/-!
# Rules combined from parts

A combination says how a rule is put together from named parts: conjunctions,
disjunctions, negations and relabellings of validators, pipes of transformers, nested at
will.  What it resolves to depends on what the parts resolve to, and it defers only when a
part does.
-/

namespace SubjectRules

variable {ε ε' ι κ : Type}

namespace Validator

inductive Combination (ι : Type) where
  | part (name : ι)
  | all (rules : List (Combination ι)) (abortEarly : Bool) (override : Option Failure)
  | any (rules : List (Combination ι)) (override : Option Failure)
  | negate (rule : Combination ι) (failure : Failure)
  | relabel (rule : Combination ι) (code : String)

namespace Combination

mutual

def build (parts : ι → Validator ε) : Combination ι → Validator ε
  | .part name => parts name
  | .all rules abortEarly override => Validator.all (buildAll parts rules) abortEarly override
  | .any rules override => Validator.any (buildAll parts rules) override
  | .negate rule failure => (build parts rule).negate failure
  | .relabel rule code => (build parts rule).relabel code

def buildAll (parts : ι → Validator ε) : List (Combination ι) → List (Validator ε)
  | [] => []
  | rule :: rest => build parts rule :: buildAll parts rest

end

theorem buildAll_eq_map (parts : ι → Validator ε) (rules : List (Combination ι)) :
    buildAll parts rules = rules.map (build parts) := by
  induction rules with
  | nil => rfl
  | cons rule rest ih => rw [buildAll, ih, List.map_cons]

@[elab_as_elim]
theorem ind {motive : Combination ι → Prop} (part : ∀ name, motive (.part name))
    (all : ∀ rules abortEarly override, (∀ rule ∈ rules, motive rule) →
      motive (.all rules abortEarly override))
    (any : ∀ rules override, (∀ rule ∈ rules, motive rule) → motive (.any rules override))
    (negate : ∀ rule failure, motive rule → motive (.negate rule failure))
    (relabel : ∀ rule code, motive rule → motive (.relabel rule code))
    (combination : Combination ι) : motive combination := by
  refine combination.rec (motive_2 := fun rules => ∀ rule ∈ rules, motive rule)
    part all any negate relabel ?_ ?_
  · exact List.forall_mem_nil motive
  · intro head tail ihHead ihTail
    exact List.forall_mem_cons.mpr ⟨ihHead, ihTail⟩

theorem map_verdict_buildAll {parts : ι → Validator ε} {parts' : ι → Validator ε'}
    {rules : List (Combination ι)}
    (hrules : ∀ rule ∈ rules, (build parts rule).verdict = (build parts' rule).verdict)
    (value : Option Json) :
    (buildAll parts rules).map (fun rule => rule.verdict value) =
      (buildAll parts' rules).map fun rule => rule.verdict value := by
  rw [buildAll_eq_map, buildAll_eq_map, List.map_map, List.map_map]
  exact List.map_congr_left fun rule hrule => congrFun (hrules rule hrule) value

theorem verdict_build_congr {parts : ι → Validator ε} {parts' : ι → Validator ε'}
    (hparts : ∀ name, (parts name).verdict = (parts' name).verdict)
    (combination : Combination ι) :
    (build parts combination).verdict = (build parts' combination).verdict := by
  induction combination using ind with
  | part name => exact hparts name
  | all rules abortEarly override ih =>
      funext value
      rw [build, build, verdict_all, verdict_all, map_verdict_buildAll ih]
  | any rules override ih =>
      funext value
      rw [build, build, verdict_any, verdict_any, map_verdict_buildAll ih]
  | negate rule failure ih =>
      funext value
      rw [build, build, verdict_negate, verdict_negate, ih]
  | relabel rule code ih =>
      funext value
      rw [build, build, verdict_relabel, verdict_relabel, ih]

theorem announced_build {defers : ε → Prop} {parts : ι → Validator ε}
    (hparts : ∀ name value, Answer.Announced defers ((parts name).check value))
    (combination : Combination ι) (value : Option Json) :
    Answer.Announced defers ((build parts combination).check value) := by
  induction combination using ind generalizing value with
  | part name => exact hparts name value
  | all rules abortEarly override ih =>
      rw [build, buildAll_eq_map]
      refine announced_all abortEarly override ?_ value
      exact List.forall_mem_map.mpr ih
  | any rules override ih =>
      rw [build, buildAll_eq_map]
      refine announced_any override ?_ value
      exact List.forall_mem_map.mpr ih
  | negate rule failure ih => exact announced_negate failure ih value
  | relabel rule code ih => exact announced_relabel code ih value

end Combination

end Validator

namespace Transformer

inductive Combination (κ : Type) where
  | part (name : κ)
  | pipe (steps : List (Combination κ))

namespace Combination

mutual

def build (parts : κ → Transformer ε) : Combination κ → Transformer ε
  | .part name => parts name
  | .pipe steps => Transformer.pipe (buildAll parts steps)

def buildAll (parts : κ → Transformer ε) : List (Combination κ) → List (Transformer ε)
  | [] => []
  | step :: rest => build parts step :: buildAll parts rest

end

theorem buildAll_eq_map (parts : κ → Transformer ε) (steps : List (Combination κ)) :
    buildAll parts steps = steps.map (build parts) := by
  induction steps with
  | nil => rfl
  | cons step rest ih => rw [buildAll, ih, List.map_cons]

@[elab_as_elim]
theorem ind {motive : Combination κ → Prop} (part : ∀ name, motive (.part name))
    (pipe : ∀ steps, (∀ step ∈ steps, motive step) → motive (.pipe steps))
    (combination : Combination κ) : motive combination := by
  refine combination.rec (motive_2 := fun steps => ∀ step ∈ steps, motive step) part pipe ?_ ?_
  · exact List.forall_mem_nil motive
  · intro head tail ihHead ihTail
    exact List.forall_mem_cons.mpr ⟨ihHead, ihTail⟩

theorem output_build_congr {parts : κ → Transformer ε} {parts' : κ → Transformer ε'}
    (hparts : ∀ name, (parts name).output = (parts' name).output)
    (combination : Combination κ) :
    (build parts combination).output = (build parts' combination).output := by
  induction combination using ind with
  | part name => exact hparts name
  | pipe steps ih =>
      have houtputs : (buildAll parts steps).map output = (buildAll parts' steps).map output := by
        rw [buildAll_eq_map, buildAll_eq_map, List.map_map, List.map_map]
        exact List.map_congr_left ih
      funext value
      have hfold := congrArg (List.foldl (fun value output => output value) value) houtputs
      rw [List.foldl_map, List.foldl_map] at hfold
      rw [build, build, output_pipe, output_pipe]
      exact hfold

theorem announced_build {defers : ε → Prop} {parts : κ → Transformer ε}
    (hparts : ∀ name value, Answer.Announced defers ((parts name).apply value))
    (combination : Combination κ) (value : Option Json) :
    Answer.Announced defers ((build parts combination).apply value) := by
  induction combination using ind generalizing value with
  | part name => exact hparts name value
  | pipe steps ih =>
      rw [build, buildAll_eq_map]
      refine announced_pipe ?_ value
      exact List.forall_mem_map.mpr ih

end Combination

end Transformer

end SubjectRules
