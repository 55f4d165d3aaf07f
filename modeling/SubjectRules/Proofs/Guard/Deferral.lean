import SubjectRules.Proofs.Combination
import SubjectRules.Proofs.Guard.Decision
import SubjectRules.Proofs.Transformation
import SubjectRules.Proofs.Validation.Early

/-!
# Guards and deferral

Which rules defer, and for how long, does not change what a guard decides: it depends on
what the rules resolve to.  Only a guard that stops early may report another of the
failures.  A guard defers only when a rule does.
-/

namespace SubjectRules

variable {ε ρ σ ι κ : Type}

/-! ## Rules for a call, combined from parts -/

namespace Source

def map (f : ρ → σ) : Source ε ρ → Source ε σ
  | .fixed schema => .fixed (schema.map f)
  | .chosen choose => .chosen fun call => Schema.map f <$> choose call

theorem value_resolve_map (f : ρ → σ) (source : Source ε ρ) (call : Call) :
    ((source.map f).resolve call).value = (source.resolve call).value.map f := by
  cases source <;> rfl

end Source

/-- Rules for a call whose validators and transformers are combined from named parts. -/
structure CombinedRules (ε κ ι : Type) where
  transformation : Option (Source ε (Transformer.Combination κ)) := none
  validation : Option (Source ε (Validator.Combination ι)) := none

namespace CombinedRules

variable {steps steps' : κ → Transformer ε} {checks checks' : ι → Validator ε}

def build (rules : CombinedRules ε κ ι) (steps : κ → Transformer ε) (checks : ι → Validator ε) :
    CallRules ε where
  transformation := rules.transformation.map (Source.map (Transformer.Combination.build steps))
  validation := rules.validation.map (Source.map (Validator.Combination.build checks))

theorem transforming_build (rules : CombinedRules ε κ ι) (call : Call)
    (arguments : Json.Fields) :
    (rules.build steps checks).transforming call arguments =
      match rules.transformation with
      | some source =>
          transform arguments
            ((source.resolve call).value.map (Transformer.Combination.build steps))
      | none => pure (.now arguments) := by
  rw [CallRules.transforming, build]
  cases rules.transformation with
  | none => rfl
  | some source => exact congrArg (transform arguments) (source.value_resolve_map _ call)

theorem validating_build (rules : CombinedRules ε κ ι) (call : Call) (abortEarly : Bool)
    (subject : Json.Fields) :
    (rules.build steps checks).validating call abortEarly subject =
      match rules.validation with
      | some source =>
          validate subject ((source.resolve call).value.map (Validator.Combination.build checks))
            abortEarly
      | none => pure (.now none) := by
  rw [CallRules.validating, build]
  cases rules.validation with
  | none => rfl
  | some source =>
      exact congrArg (validate subject · abortEarly) (source.value_resolve_map _ call)

/-! ### What the parts resolve to -/

theorem value_transforming_congr (rules : CombinedRules ε κ ι)
    (hsteps : ∀ name, (steps name).output = (steps' name).output)
    (checks checks' : ι → Validator ε) (call : Call) (arguments : Json.Fields) :
    ((rules.build steps checks).transforming call arguments).value.value =
      ((rules.build steps' checks').transforming call arguments).value.value := by
  rw [transforming_build, transforming_build]
  cases rules.transformation with
  | none => rfl
  | some source =>
      apply value_transform_congr
      rw [Schema.map_map, Schema.map_map]
      exact congrArg (fun f => Schema.map f _)
        (funext (Transformer.Combination.output_build_congr hsteps))

theorem failures_map_build_congr
    (hchecks : ∀ name, (checks name).verdict = (checks' name).verdict)
    (schema : Schema (Validator.Combination ι)) (subject : Json.Fields) :
    (schema.map (Validator.Combination.build checks)).failures subject =
      (schema.map (Validator.Combination.build checks')).failures subject := by
  apply Schema.failures_congr
  rw [Schema.map_map, Schema.map_map]
  exact congrArg (fun f => Schema.map f schema)
    (funext (Validator.Combination.verdict_build_congr hchecks))

theorem value_validating_congr (rules : CombinedRules ε κ ι)
    (hchecks : ∀ name, (checks name).verdict = (checks' name).verdict) (call : Call)
    (subject : Json.Fields) :
    ((rules.build steps checks).validating call false subject).value.value =
      ((rules.build steps' checks').validating call false subject).value.value := by
  rw [validating_build, validating_build]
  cases rules.validation with
  | none => rfl
  | some source =>
      dsimp only
      rw [value_validate, value_validate, failures_map_build_congr hchecks]

theorem value_validating_eq_none_congr (rules : CombinedRules ε κ ι)
    (hchecks : ∀ name, (checks name).verdict = (checks' name).verdict) (call : Call)
    (abortEarly : Bool) (subject : Json.Fields) :
    ((rules.build steps checks).validating call abortEarly subject).value.value = none ↔
      ((rules.build steps' checks').validating call abortEarly subject).value.value = none := by
  rw [validating_build, validating_build]
  cases rules.validation with
  | none => rfl
  | some source =>
      dsimp only
      rw [value_validate_eq_none_iff, value_validate_eq_none_iff,
        failures_map_build_congr hchecks]

/-! ### Which parts defer -/

variable {defers : ε → Prop}

theorem announced_transforming (rules : CombinedRules ε κ ι)
    (hsteps : ∀ name value, Answer.Announced defers ((steps name).apply value)) (call : Call)
    (arguments : Json.Fields) :
    Answer.Announced defers ((rules.build steps checks).transforming call arguments) := by
  rw [transforming_build]
  cases rules.transformation with
  | none => exact .now arguments
  | some source =>
      exact announced_transform (Transformer.Combination.announced_build hsteps) arguments _

theorem announced_validating (rules : CombinedRules ε κ ι)
    (hchecks : ∀ name value, Answer.Announced defers ((checks name).check value)) (call : Call)
    (abortEarly : Bool) (subject : Json.Fields) :
    Answer.Announced defers
      ((rules.build steps checks).validating call abortEarly subject) := by
  rw [validating_build]
  cases rules.validation with
  | none => exact .now none
  | some source =>
      exact announced_validate (Validator.Combination.announced_build hchecks) subject _ abortEarly

end CombinedRules

theorem Decision.rejected_iff_of_proceed_iff {one other : Decision}
    (hproceed : ∀ subject, one = .proceed subject ↔ other = .proceed subject) :
    (∃ failures, one = .rejected failures) ↔ ∃ failures, other = .rejected failures := by
  cases one with
  | proceed subject => rw [(hproceed subject).mp rfl]
  | rejected failures =>
      cases other with
      | proceed subject => cases (hproceed subject).mpr rfl
      | rejected found => simp

namespace Guard

/-! ## Reports -/

def silent (guard : Guard ε) : Guard ε := { guard with report := fun _ => pure () }

theorem log_awaited_check (guard : Guard ε) (rules : CallRules ε) {call : Call}
    {arguments : Json.Fields} (harguments : call.arguments = some arguments) :
    let transformed := rules.transforming call arguments
    let validated := rules.validating call guard.options.abortEarly transformed.value.value
    (Answer.awaited (guard.check rules call)).log =
      Source.choiceLog rules.transformation call ++ transformed.log ++
        Source.choiceLog rules.validation call ++ transformed.value.awaitLog ++
        (validated.log ++ validated.value.awaitLog) ++
        validated.value.value.toList.flatMap fun failures => (guard.report failures).log := by
  intro transformed validated
  obtain ⟨hvalue, hlog⟩ := guard.check_of_arguments rules harguments
  have hrest := Answer.log_awaited_andThen transformed.value (guard.judge rules call)
  rw [log_awaited_judge, Answer.log_awaited] at hrest
  rw [Answer.log_awaited, hvalue, hlog, List.append_assoc, hrest]
  simp only [List.append_assoc]
  rfl

theorem log_awaited_check_silent (guard : Guard ε) (rules : CallRules ε) (call : Call) :
    (Answer.awaited (guard.check rules call)).log =
      (Answer.awaited (guard.silent.check rules call)).log ++
        (guard.check rules call).value.value.failures?.toList.flatMap fun failures =>
          (guard.report failures).log := by
  cases harguments : call.arguments with
  | none =>
      rw [check, check, harguments]
      rfl
  | some arguments =>
      have hsilent : ∀ found : Option FailureTree, (found.toList.flatMap fun failures =>
          (guard.silent.report failures).log) = [] := by
        intro found
        cases found <;> rfl
      rw [guard.log_awaited_check rules harguments, guard.failures?_check rules harguments,
        guard.silent.log_awaited_check rules harguments, hsilent, List.append_nil]
      rfl

theorem log_awaited_check_of_rejected {guard : Guard ε} {rules : CallRules ε} {call : Call}
    {failures : FailureTree}
    (hrejected : (guard.check rules call).value.value = .rejected failures) :
    (Answer.awaited (guard.check rules call)).log =
      (Answer.awaited (guard.silent.check rules call)).log ++ (guard.report failures).log := by
  rw [log_awaited_check_silent, hrejected]
  exact congrArg _ (List.append_nil _)

/-! ## Deferral -/

theorem announced_check {guard : Guard ε} {rules : CallRules ε} {call : Call}
    {defers : ε → Prop}
    (htransforming : ∀ arguments, Answer.Announced defers (rules.transforming call arguments))
    (hvalidating : ∀ subject, Answer.Announced defers
      (rules.validating call guard.options.abortEarly subject)) :
    Answer.Announced defers (guard.check rules call) := by
  cases harguments : call.arguments with
  | none =>
      rw [check, harguments]
      exact .now _
  | some arguments =>
      obtain ⟨hvalue, hlog⟩ := guard.check_of_arguments rules harguments
      have hjudge : ∀ subject, Answer.Announced defers (guard.judge rules call subject) :=
        fun subject => (hvalidating subject).mapLogged (guard.conclude subject)
      refine ((htransforming arguments).andThen hjudge).of_log_subset hvalue ?_
      rw [hlog, Logged.log_bind]
      intro event hevent
      rcases List.mem_append.mp hevent with hfirst | hrest
      · simp [hfirst]
      · exact List.mem_append_right _ hrest

theorem proceeds_congr (guard : Guard ε) (rules : CombinedRules ε κ ι)
    {steps steps' : κ → Transformer ε} {checks checks' : ι → Validator ε}
    (hsteps : ∀ name, (steps name).output = (steps' name).output)
    (hchecks : ∀ name, (checks name).verdict = (checks' name).verdict) (call : Call)
    (subject : Option Json.Fields) :
    (guard.check (rules.build steps checks) call).value.value = .proceed subject ↔
      (guard.check (rules.build steps' checks') call).value.value = .proceed subject := by
  have helim : ∀ (found : Option FailureTree) (arguments : Json.Fields),
      found.elim (.proceed (some arguments)) .rejected = Decision.proceed subject ↔
        found = none ∧ some arguments = subject := by
    intro found arguments
    cases found <;> simp
  cases harguments : call.arguments with
  | none => rw [check, check, harguments]
  | some arguments =>
      have htransformed := rules.value_transforming_congr hsteps checks checks' call arguments
      rw [guard.value_check _ harguments, guard.value_check _ harguments, helim, helim,
        htransformed]
      exact and_congr_left fun _ => rules.value_validating_eq_none_congr hchecks call _ _

theorem value_check_congr {guard : Guard ε} (hfull : guard.options.abortEarly = false)
    (rules : CombinedRules ε κ ι) {steps steps' : κ → Transformer ε}
    {checks checks' : ι → Validator ε}
    (hsteps : ∀ name, (steps name).output = (steps' name).output)
    (hchecks : ∀ name, (checks name).verdict = (checks' name).verdict) (call : Call) :
    (guard.check (rules.build steps checks) call).value.value =
      (guard.check (rules.build steps' checks') call).value.value := by
  cases harguments : call.arguments with
  | none => rw [check, check, harguments]
  | some arguments =>
      have htransformed := rules.value_transforming_congr hsteps checks checks' call arguments
      rw [guard.value_check _ harguments, guard.value_check _ harguments, hfull, htransformed,
        rules.value_validating_congr hchecks]

/-- Let two families of parts resolve to the same, whichever of them defer and for how long.
Then rules combined from either make the guard decide alike: a call proceeds with the same object
or is rejected both times, and unless the guard stops early the same failures are found, and
reported once.  If no part that is called logs that it defers, the decision is there at once. -/
theorem check_independent_of_deferral (guard : Guard ε) (rules : CombinedRules ε κ ι)
    {steps steps' : κ → Transformer ε} {checks checks' : ι → Validator ε}
    (hsteps : ∀ name value, (steps name).output value = (steps' name).output value)
    (hchecks : ∀ name value, (checks name).verdict value = (checks' name).verdict value)
    (call : Call) :
    let one := guard.check (rules.build steps checks) call
    let other := guard.check (rules.build steps' checks') call
    (∀ subject, one.value.value = .proceed subject ↔ other.value.value = .proceed subject) ∧
      ((∃ failures, one.value.value = .rejected failures) ↔
        ∃ failures, other.value.value = .rejected failures) ∧
      (guard.options.abortEarly = false → one.value.value = other.value.value ∧
        ∀ failures, one.value.value = .rejected failures →
          (Answer.awaited one).log =
            (Answer.awaited (guard.silent.check (rules.build steps checks) call)).log ++
              (guard.report failures).log ∧
          (Answer.awaited other).log =
            (Answer.awaited (guard.silent.check (rules.build steps' checks') call)).log ++
              (guard.report failures).log) ∧
      ∀ defers : ε → Prop,
        (∀ name value, Answer.Announced defers ((steps name).apply value)) →
        (∀ name value, Answer.Announced defers ((checks name).check value)) →
        (∀ event ∈ one.log, ¬ defers event) → one.value.isNow = true := by
  intro one other
  have houtputs := fun name => funext (hsteps name)
  have hverdicts := fun name => funext (hchecks name)
  have hproceed := guard.proceeds_congr rules houtputs hverdicts call
  refine ⟨hproceed, Decision.rejected_iff_of_proceed_iff hproceed, ?_, ?_⟩
  · intro hfull
    have hsame : one.value.value = other.value.value :=
      value_check_congr hfull rules houtputs hverdicts call
    refine ⟨hsame, fun failures hone => ⟨?_, ?_⟩⟩
    · exact log_awaited_check_of_rejected hone
    · exact log_awaited_check_of_rejected (hsame.symm.trans hone)
  · intro defers hstepsAnnounced hchecksAnnounced hnone
    have hcheck : Answer.Announced defers one :=
      announced_check (rules.announced_transforming hstepsAnnounced call)
        (rules.announced_validating hchecksAnnounced call guard.options.abortEarly)
    exact hcheck.isNow hnone

/-- An answer that is there after some polls, which is logged. -/
def answerAfter {α : Type} (polls : Nat) (a : α) : Logged Bool (Answer Bool α) :=
  Answer.marked true
    (pure (if polls = 0 then .now a else .later (.after polls (.settled [] a))))

theorem value_answerAfter {α : Type} (polls : Nat) (a : α) :
    (answerAfter polls a).value.value = a := by
  rw [answerAfter, Answer.value_marked, Logged.value_pure]
  split
  · rfl
  · exact Promise.value_after polls _

def confirming (polls : Nat) : Transformer Bool :=
  .raw fun _ => answerAfter polls (some (.bool true))

def presence (polls : Nat) : Validator Bool :=
  .raw fun value => answerAfter polls (if value.isSome then none else some (.ofCode "missing"))

theorem check_independent_of_deferral_nested :
    let guard : Guard Bool := { options := {}, report := fun _ => .emit false }
    let call : Call := { arguments := some [("b", .null)], parentType := "t", fieldName := "f" }
    let rules : CombinedRules Bool Nat Nat :=
      { transformation := some (.fixed
          (.leaf "b" (.single (.pipe [.part 0, .pipe [.part 0]])) .nil))
        validation := some (.chosen fun _ => pure
          (.leaf "a" (.chain [.all [.any [.part 0] none] false none, .part 1])
            (.leaf "b" (.single (.negate (.relabel (.part 0) "c") (.ofCode "d"))) .nil))) }
    -- The part that defers at first comes after a failure in its chain and is not called.
    let one := guard.check (rules.build confirming presence) call
    let other := guard.check
      (rules.build (fun name => confirming (name + 2)) fun name => presence (name + 1)) call
    one.value.isNow = true ∧ other.value.isNow = false ∧ one.value.value = other.value.value ∧
      one.value.value.failures?.map FailureTree.fieldCount = some 2 ∧
      (Answer.awaited other).log.count false = 1 := by
  intro guard call rules one other
  have hsteps : ∀ name value,
      (confirming name).output value = (confirming (name + 2)).output value := by
    intro name value
    exact (value_answerAfter _ _).trans (value_answerAfter _ _).symm
  have hchecks : ∀ name value,
      (presence name).verdict value = (presence (name + 1)).verdict value := by
    intro name value
    exact (value_answerAfter _ _).trans (value_answerAfter _ _).symm
  obtain ⟨-, -, hfull, hready⟩ :=
    guard.check_independent_of_deferral rules hsteps hchecks call
  refine ⟨?_, by decide +kernel, (hfull rfl).1, by decide +kernel, by decide +kernel⟩
  apply hready (· = true)
  · intro name value
    exact .marked true _
  · intro name value
    exact .marked true _
  · decide

end Guard

end SubjectRules
