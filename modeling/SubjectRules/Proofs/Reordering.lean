import SubjectRules.Proofs.Json.Reordered
import SubjectRules.Proofs.Schema.Reordered
import SubjectRules.Proofs.Transformation.Frame
import SubjectRules.Proofs.Validation.Early

/-!
# Rules in another order

Leaves are visited in definition order, and what they come to is written in that order.  No leaf
path leads to another, so writing in another order changes the order of the keys and nothing
else.
-/

namespace SubjectRules

variable {ε ε' : Type}

namespace Schema

theorem perm_outputs {schema : Schema (Transformer ε)} {other : Schema (Transformer ε')}
    (hsame : (schema.map Transformer.output).Reordered (other.map Transformer.output))
    (subject : Json.Fields) : (schema.outputs subject).Perm (other.outputs subject) :=
  (hsame.visitsBeside subject).filterMap _

theorem perm_failures {schema : Schema (Validator ε)} {other : Schema (Validator ε')}
    (hsame : (schema.map Validator.verdict).Reordered (other.map Validator.verdict))
    (subject : Json.Fields) : (schema.failures subject).Perm (other.failures subject) := by
  rw [failures_eq_filterMap_verdicts, failures_eq_filterMap_verdicts]
  exact (hsame.visitsBeside subject).filterMap _

end Schema

theorem reordered_transform {schema : Schema (Transformer ε)} {other : Schema (Transformer ε')}
    (hschema : schema.DistinctKeys)
    (hsame : (schema.map Transformer.output).Reordered (other.map Transformer.output))
    (subject : Json.Fields) :
    Json.Fields.Reordered (transform subject schema).value.value
      (transform subject other).value.value := by
  rw [value_transform, value_transform]
  exact Json.Fields.reordered_assignAll (Schema.perm_outputs hsame subject)
    (Schema.pairwise_incomparable_outputs hschema subject) subject

theorem reordered_validate {schema : Schema (Validator ε)} {other : Schema (Validator ε')}
    (hschema : schema.DistinctKeys)
    (hsame : (schema.map Validator.verdict).Reordered (other.map Validator.verdict))
    (subject : Json.Fields) :
    Option.Rel (fun report report' : FailureTree => report.fields.Reordered report'.fields)
      (validate subject schema false).value.value (validate subject other false).value.value := by
  have hperm := Schema.perm_failures hsame subject
  rw [value_validate, value_validate]
  by_cases hnone : schema.failures subject = []
  · rw [if_pos hnone, if_pos (List.nil_perm.mp (hnone ▸ hperm))]
    exact .none
  · have hsome : other.failures subject ≠ [] := fun hnil => hnone (List.perm_nil.mp (hnil ▸ hperm))
    rw [if_neg hnone, if_neg hsome]
    exact .some (Json.Fields.reordered_assignAll (hperm.map _)
      (pairwise_incomparable_failureEntries subject hschema) [])

/-- Rules that are defined in another order, in any schemas, change no more than the order of the
keys: neither a result, nor a report, nor whether a validation passes.  When they answer does not
matter. -/
theorem definition_order_moves_keys {checks : Schema (Validator ε)}
    {checks' : Schema (Validator ε')} {conversions : Schema (Transformer ε)}
    {conversions' : Schema (Transformer ε')}
    (hchecks : checks.DistinctKeys) (hconversions : conversions.DistinctKeys)
    (hverdicts : (checks.map Validator.verdict).Reordered (checks'.map Validator.verdict))
    (houtputs :
      (conversions.map Transformer.output).Reordered (conversions'.map Transformer.output))
    (subject : Json.Fields) :
    Json.Fields.Reordered (transform subject conversions).value.value
        (transform subject conversions').value.value ∧
      Option.Rel (fun report report' : FailureTree => report.fields.Reordered report'.fields)
        (validate subject checks false).value.value
        (validate subject checks' false).value.value ∧
      ((validate subject checks true).value.value = none ↔
        (validate subject checks' true).value.value = none) := by
  refine ⟨reordered_transform hconversions houtputs subject,
    reordered_validate hchecks hverdicts subject, ?_⟩
  have hperm := Schema.perm_failures hverdicts subject
  rw [value_validate_eq_none_iff, value_validate_eq_none_iff]
  constructor
  · intro hnone
    exact List.nil_perm.mp (hnone ▸ hperm)
  · intro hnone
    exact List.perm_nil.mp (hnone ▸ hperm)

theorem definition_order_moves_keys_nested :
    let checks : Schema (Validator Unit) :=
      .branch "inner" (.leaf "a" (.single (lateCheck "a")) (.leaf "b" (.chain [promptCheck "b"])
        .nil)) (.leaf "c" (.single (promptCheck "c")) .nil)
    let checks' : Schema (Validator Unit) :=
      .leaf "c" (.single (lateCheck "c")) (.branch "inner" (.leaf "b" (.chain [promptCheck "b"])
        (.leaf "a" (.single (promptCheck "a")) .nil)) .nil)
    let conversions : Schema (Transformer Unit) :=
      .branch "inner" (.leaf "a" (.single (lateConfirm 2)) (.leaf "b" (.single (lateConfirm 0))
        .nil)) .nil
    let conversions' : Schema (Transformer Unit) :=
      .branch "inner" (.leaf "b" (.single (lateConfirm 0)) (.leaf "a" (.single (lateConfirm 2))
        .nil)) .nil
    let subject : Json.Fields := [("inner", .str "flat")]
    ∃ report report', (validate subject checks false).value.value = some report ∧
      (validate subject checks' false).value.value = some report' ∧
      report.leafPaths = [["inner", "a"], ["inner", "b"], ["c"]] ∧
      report'.leafPaths = [["c"], ["inner", "b"], ["inner", "a"]] ∧
      report.fields.Reordered report'.fields ∧
      Json.Fields.Reordered (transform subject conversions).value.value
        (transform subject conversions').value.value ∧
      (transform subject conversions').value.value =
        [("inner", .obj [("b", .bool true), ("a", .bool true)])] := by
  intro checks checks' conversions conversions' subject
  have hverdicts : (checks.map Validator.verdict).Reordered (checks'.map Validator.verdict) :=
    .trans (.swap "inner" "c" (.branch _) (.leaf _) .nil)
      (.cons "c" (.leaf _) (.branch "inner" (.swap "a" "b" (.leaf _) (.leaf _) .nil) .nil))
  have hreordered : conversions.Reordered conversions' :=
    .branch "inner" (.of_perm (.swap _ _ [])) .nil
  have hchecks : checks.DistinctKeys := by decide
  have hconversions : conversions.DistinctKeys := by decide
  obtain ⟨hresults, hreports, -⟩ := definition_order_moves_keys hchecks hconversions hverdicts
    (hreordered.map Transformer.output) subject
  refine ⟨_, _, rfl, rfl, rfl, rfl, ?_, hresults, rfl⟩
  cases hreports with
  | some hfields => exact hfields

end SubjectRules
