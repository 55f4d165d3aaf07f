import SubjectRules.Proofs.Transformer.Output

/-!
# The steps of a pipe

The steps of a pipe are applied once each, from left to right, to what the steps before
resolve to.  Steps are applied at once as long as they answer at once.  Those behind the first
promised answer are applied while the result is awaited.
-/

namespace SubjectRules.Transformer

variable {ε : Type}

/-- The applications of the steps of a pipe, each to what the steps before resolve to. -/
def applications (steps : List (Transformer ε)) (value : Option Json) :
    List (Logged ε (Answer ε (Option Json))) :=
  Answer.calls (steps.map apply) value

theorem getElem?_applications (steps : List (Transformer ε)) (value : Option Json) (i : Nat) :
    (applications steps value)[i]? = steps[i]?.map fun step =>
      step.apply ((steps.take i).foldl (fun value step => step.output value) value) := by
  rw [applications, Answer.getElem?_calls, List.getElem?_map, Option.map_map, ← List.map_take,
    List.foldl_map]
  rfl

/-- A pipe resolves to its steps applied from left to right.  Every step is applied once, to what
the steps before it resolve to.  The result is there at once when every step answers at once.  Up
to the first step that does not, steps are applied at once; the steps behind it are applied only
while the result is awaited. -/
theorem pipe_applies_in_order (steps : List (Transformer ε)) (value : Option Json) :
    let result := (pipe steps).apply value
    let applied := applications steps value
    (∀ i : Nat, applied[i]? = steps[i]?.map fun step =>
        step.apply ((steps.take i).foldl (fun value step => step.output value) value)) ∧
      result.value.value = steps.foldl (fun value step => step.output value) value ∧
      (Answer.awaited result).log = (applied.flatMap fun call => (Answer.awaited call).log) ∧
      (result.value.isNow = true ↔ ∀ call ∈ applied, call.value.isNow = true) ∧
      result.log = (upTo (fun call => !call.value.isNow) applied).flatMap Logged.log ∧
      ∀ prompt first rest, applied = prompt ++ first :: rest →
        (∀ call ∈ prompt, call.value.isNow = true) → first.value.isNow = false →
        result.log = (prompt ++ [first]).flatMap Logged.log ∧
          result.value.awaitLog =
            first.value.awaitLog ++ rest.flatMap fun call => (Answer.awaited call).log := by
  intro result applied
  have hresult : result = (Answer.now value).chain (steps.map apply) := apply_pipe steps value
  rw [hresult]
  refine ⟨getElem?_applications steps value, ?_, ?_, ?_, ?_, ?_⟩
  · rw [← hresult]
    exact output_pipe steps value
  · exact Answer.log_awaited_chain (.now value) (steps.map apply)
  · exact Answer.isNow_chain_now value (steps.map apply)
  · exact Answer.log_chain_now value (steps.map apply)
  · intro prompt first rest
    exact Answer.chain_now_of_first

end SubjectRules.Transformer
