import SubjectRules.Proofs.Reduce.Morphism
import SubjectRules.Proofs.Validator.Decision

/-!
# Relabelled combinations

Relabelling is a morphism of conjunctions and disjunctions.  It may be done to every rule or to
what they come to, and an override is relabelled with the combination that it stands for.  The
validators that this equates give every value the same answer, at once or after the same polls,
with the same events.
-/

namespace SubjectRules

variable {ε : Type}

namespace Failure

def isSequence : Failure → Bool
  | .one _ => false
  | .many _ => true

/-- The second failure is the first with every code replaced. -/
structure Relabelled (code : String) (failure relabelled : Failure) : Prop where
  shape : relabelled.isSequence = failure.isSequence
  count : relabelled.violations.length = failure.violations.length
  extras : relabelled.violations.map Violation.extras = failure.violations.map Violation.extras
  codes : ∀ violation ∈ relabelled.violations, violation.code = code

theorem relabelled_relabel (code : String) (failure : Failure) :
    Relabelled code failure (failure.relabel code) where
  shape := by cases failure <;> rfl
  count := by rw [violations_relabel, List.length_map]
  extras := by
    rw [violations_relabel, List.map_map]
    rfl
  codes := by
    rw [violations_relabel, List.forall_mem_map]
    exact fun _ _ => rfl

theorem relabel_relabel (first code : String) (failure : Failure) :
    (failure.relabel first).relabel code = failure.relabel code := by
  cases failure with
  | one violation => rfl
  | many violations => simp [relabel, Violation.relabel]

end Failure

namespace Validator

theorem check_relabel (rule : Validator ε) (code : String) (value : Option Json) :
    (rule.relabel code).check value =
      Answer.map (Option.map (Failure.relabel code)) <$> rule.check value := rfl

theorem relabel_relabel (rule : Validator ε) (first code : String) :
    (rule.relabel first).relabel code = rule.relabel code := by
  refine congrArg raw (funext fun value => ?_)
  change Answer.map (Option.map (Failure.relabel code)) <$> (rule.relabel first).check value =
    (rule.relabel code).check value
  rw [check_relabel, check_relabel, Functor.map_map]
  congr 1
  funext answer
  rw [Answer.map_map]
  congr 1
  funext verdict
  cases verdict with
  | none => rfl
  | some failure => exact congrArg some (failure.relabel_relabel first code)

/-! ## Combinations by steps -/

def combined (rules : List (Validator ε))
    (step : List Violation → Verdict → Flow Verdict (List Violation))
    (finish : List Violation → Verdict) : Validator ε :=
  raw fun value =>
    Reducer.run
      { evaluate := fun _ rule _ => rule.check value
        combine := fun found verdict _ => pure (step found verdict)
        finish }
      [] rules

section

variable {step step' : List Violation → Verdict → Flow Verdict (List Violation)}
  {finish finish' : List Violation → Verdict} {code : String}

theorem relabel_combined {onRule : Validator ε → Validator ε} {onVerdict : Verdict → Verdict}
    {onFound : List Violation → List Violation}
    (hrule : ∀ rule value, (onRule rule).check value = Answer.map onVerdict <$> rule.check value)
    (hstart : onFound [] = [])
    (hstep : ∀ found verdict, step' (onFound found) (onVerdict verdict) =
      (step found verdict).map (Option.map (Failure.relabel code)) onFound)
    (hfinish : ∀ found, finish' (onFound found) = (finish found).map (Failure.relabel code))
    (rules : List (Validator ε)) :
    (combined rules step finish).relabel code = combined (rules.map onRule) step' finish' := by
  refine congrArg raw (funext fun value => ?_)
  have hmorphism : Reducer.Morphism
      { evaluate := fun _ rule _ => rule.check value
        combine := fun found verdict _ => pure (step found verdict)
        finish }
      { evaluate := fun _ rule _ => rule.check value
        combine := fun found verdict _ => pure (step' found verdict)
        finish := finish' }
      onRule onVerdict onFound (Option.map (Failure.relabel code)) :=
    ⟨fun _ rule _ => hrule rule value,
      fun found verdict _ => congrArg pure (hstep found verdict), hfinish⟩
  have hrun := hmorphism.run [] rules
  rw [hstart] at hrun
  exact hrun.symm

theorem relabel_combined_rules
    (hstep : ∀ found verdict,
      step' (found.map (Violation.relabel code)) (verdict.map (Failure.relabel code)) =
        (step found verdict).map (Option.map (Failure.relabel code))
          (List.map (Violation.relabel code)))
    (hfinish : ∀ found, finish' (found.map (Violation.relabel code)) =
      (finish found).map (Failure.relabel code))
    (rules : List (Validator ε)) :
    (combined rules step finish).relabel code =
      combined (rules.map fun rule => rule.relabel code) step' finish' :=
  relabel_combined (fun rule value => check_relabel rule code value) List.map_nil hstep hfinish
    rules

theorem relabel_combined_result {onFound : List Violation → List Violation}
    (hstart : onFound [] = [])
    (hstep : ∀ found verdict, step' (onFound found) verdict =
      (step found verdict).map (Option.map (Failure.relabel code)) onFound)
    (hfinish : ∀ found, finish' (onFound found) = (finish found).map (Failure.relabel code))
    (rules : List (Validator ε)) :
    (combined rules step finish).relabel code = combined rules step' finish' := by
  have hrule : ∀ (rule : Validator ε) (value : Option Json),
      (id rule).check value = Answer.map id <$> rule.check value := by
    intro rule value
    rw [Answer.map_id, id_map, id]
  have hcombined := relabel_combined hrule hstart hstep hfinish rules
  rwa [List.map_id] at hcombined

end

/-! ## Conjunctions and disjunctions -/

theorem allVerdict_relabel (code : String) (found : List Violation) :
    allVerdict (found.map (Violation.relabel code)) =
      (allVerdict found).map (Failure.relabel code) := by
  cases found <;> rfl

theorem relabel_all (rules : List (Validator ε)) (abortEarly : Bool) (code : String) :
    (all rules abortEarly none).relabel code =
      all (rules.map fun rule => rule.relabel code) abortEarly none := by
  refine relabel_combined_rules ?_ (allVerdict_relabel code) rules
  intro found verdict
  cases verdict with
  | none => rfl
  | some failure =>
      cases abortEarly with
      | true => rfl
      | false => simp [allStep, Flow.map, Failure.violations_relabel]

theorem relabel_any (rules : List (Validator ε)) (code : String) :
    (any rules none).relabel code = any (rules.map fun rule => rule.relabel code) none := by
  refine relabel_combined_rules ?_ ?_ rules
  · intro found verdict
    cases verdict with
    | none => rfl
    | some failure => simp [anyStep, Flow.map, Failure.violations_relabel]
  · intro found
    cases found <;> rfl

theorem relabel_all_of_override (rules : List (Validator ε)) (abortEarly : Bool)
    (override : Failure) (code : String) :
    (all rules abortEarly (some override)).relabel code =
      all rules abortEarly (some (override.relabel code)) := by
  refine relabel_combined_result List.map_nil ?_ (allVerdict_relabel code) rules
  intro found verdict
  cases verdict with
  | none => rfl
  | some failure => cases abortEarly <;> rfl

theorem relabel_any_of_override (rules : List (Validator ε)) (override : Failure)
    (code : String) :
    (any rules (some override)).relabel code = any rules (some (override.relabel code)) := by
  have hstart : id ([] : List Violation) = [] := rfl
  refine relabel_combined_result hstart ?_ ?_ rules
  · intro found verdict
    cases verdict <;> rfl
  · intro found
    cases found <;> rfl

/-! ## What relabelling changes -/

theorem relabelled_verdict (rule : Validator ε) (code : String) (value : Option Json) :
    Option.Rel (Failure.Relabelled code) (rule.verdict value)
      ((rule.relabel code).verdict value) := by
  rw [verdict_relabel]
  cases rule.verdict value with
  | none => exact .none
  | some failure => exact .some (failure.relabelled_relabel code)

/-- A conjunction or disjunction is relabelled by relabelling its rules, or its override if it
has one.  The last label counts.  A relabelled rule passes when the rule does, and its failure
differs in the codes alone. -/
theorem relabel_commutes (code : String) :
    (∀ (rules : List (Validator ε)) (abortEarly : Bool),
      (all rules abortEarly none).relabel code =
        all (rules.map fun rule => rule.relabel code) abortEarly none) ∧
      (∀ rules : List (Validator ε), (any rules none).relabel code =
        any (rules.map fun rule => rule.relabel code) none) ∧
      (∀ (rules : List (Validator ε)) (abortEarly : Bool) (override : Failure),
        (all rules abortEarly (some override)).relabel code =
          all rules abortEarly (some (override.relabel code))) ∧
      (∀ (rules : List (Validator ε)) (override : Failure),
        (any rules (some override)).relabel code = any rules (some (override.relabel code))) ∧
      (∀ (rule : Validator ε) (first : String),
        (rule.relabel first).relabel code = rule.relabel code) ∧
      ∀ (rule : Validator ε) (value : Option Json),
        Option.Rel (Failure.Relabelled code) (rule.verdict value)
          ((rule.relabel code).verdict value) :=
  ⟨fun rules abortEarly => relabel_all rules abortEarly code, fun rules => relabel_any rules code,
    fun rules abortEarly override => relabel_all_of_override rules abortEarly override code,
    fun rules override => relabel_any_of_override rules override code,
    fun rule first => rule.relabel_relabel first code, fun rule => relabelled_verdict rule code⟩

end Validator

end SubjectRules
