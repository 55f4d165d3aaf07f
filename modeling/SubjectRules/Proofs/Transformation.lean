import SubjectRules.Proofs.Subject
import SubjectRules.Proofs.Transformer.Output
import SubjectRules.Proofs.Walk.Outcome

/-!
# The result of a transformation

A transformation writes the outputs of the leaves over the subject, in definition order.
A leaf without an output, or inside a branch that is missing or null, writes nothing.
-/

namespace SubjectRules

variable {ε ε' : Type}

def Schema.outputs (subject : Json.Fields) (schema : Schema (Transformer ε)) :
    List (FieldPath × Json) :=
  ((schema.map Transformer.output).visitsBeside subject).filterMap fun visit =>
    (Transformer.leafOutput visit.rules visit.value).map (visit.path, ·)

theorem filterMap_entryAt_transformation (subject : Json.Fields)
    (schema : Schema (Transformer ε)) :
    ((transformation subject).visits schema).filterMap (transformation subject).entryAt =
      schema.outputs subject := by
  rw [Schema.outputs, Schema.visitsBeside_map, List.filterMap_map]
  refine List.filterMap_congr fun visit _ => ?_
  have houtput : ((transformation subject).answer visit).value =
      Transformer.leafOutput (visit.rules.map Transformer.output) visit.value :=
    Transformer.output_ofLeaf visit.rules visit.value
  have hkeeps : (transformation (ε := ε) subject).keeps = fun _ => true := rfl
  rw [Walk.entryAt, houtput, hkeeps, Function.comp_apply, Visit.map]
  cases Transformer.leafOutput (visit.rules.map Transformer.output) visit.value <;> rfl

theorem value_transform (subject : Json.Fields) (schema : Schema (Transformer ε)) :
    (transform subject schema).value.value =
      Json.Fields.assignAll subject (schema.outputs subject) := by
  have hnever : ∀ result, (transformation (ε := ε) subject).finds result = false := fun _ => rfl
  have hrun := Walk.resolve_run_of_never hnever schema
  rw [filterMap_entryAt_transformation, Walk.written] at hrun
  rw [transform, Logged.value_bind, Logged.value_pure, Answer.value_map, hrun]
  exact congrArg (Json.Fields.assignAll subject) (List.map_id _)

theorem value_transform_congr {schema : Schema (Transformer ε)}
    {other : Schema (Transformer ε')}
    (hsame : schema.map Transformer.output = other.map Transformer.output)
    (subject : Json.Fields) :
    (transform subject schema).value.value = (transform subject other).value.value := by
  rw [value_transform, value_transform, Schema.outputs, Schema.outputs, hsame]

end SubjectRules
