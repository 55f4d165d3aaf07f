import SubjectRules.Proofs.Answer.Chain
import SubjectRules.Transformer.Basic

/-!
# Outputs

The output of a transformer is what its answer resolves to.  The output of a pipe is that
of its steps in order, each on the output of the one before it.
-/

namespace SubjectRules.Transformer

variable {ε : Type}

def output (rule : Transformer ε) (value : Option Json) : Option Json :=
  (rule.apply value).value.value

theorem apply_pipe (steps : List (Transformer ε)) (value : Option Json) :
    (pipe steps).apply value = (Answer.now value).chain (steps.map apply) :=
  List.foldlM_map.symm

theorem output_pipe (steps : List (Transformer ε)) (value : Option Json) :
    (pipe steps).output value = steps.foldl (fun value step => step.output value) value := by
  rw [output, apply_pipe, Answer.value_chain, List.foldl_map]
  rfl

def leafOutput : Leaf (Option Json → Option Json) → Option Json → Option Json
  | .single output, value => output value
  | .chain outputs, value => outputs.foldl (fun value output => output value) value

theorem output_ofLeaf (rules : Leaf (Transformer ε)) (value : Option Json) :
    (ofLeaf rules).output value = leafOutput (rules.map output) value := by
  cases rules with
  | single rule => rfl
  | chain rules =>
      rw [ofLeaf, output_pipe, Leaf.map, leafOutput, List.foldl_map]

end SubjectRules.Transformer
