import SubjectRules.Guard
import SubjectRules.Proofs.Answer

/-!
# The decision of a guard

A guard chooses the schemas for a call, transforms the arguments and validates what comes
of them.  It rejects the call when this finds failures and reports them just once; else the
call proceeds with the very object that was validated.
-/

namespace SubjectRules

variable {ε ρ : Type}

def Source.choiceLog (source? : Option (Source ε ρ)) (call : Call) : List ε :=
  source?.elim [] fun source => (source.resolve call).log

namespace CallRules

/-- The arguments of a call under the transformation chosen for it. -/
def transforming (rules : CallRules ε) (call : Call) (arguments : Json.Fields) :
    Logged ε (Answer ε Json.Fields) :=
  match rules.transformation with
  | some source => transform arguments (source.resolve call).value
  | none => pure (.now arguments)

/-- The failures of an object under the validation chosen for a call. -/
def validating (rules : CallRules ε) (call : Call) (abortEarly : Bool) (subject : Json.Fields) :
    Logged ε (Answer ε (Option FailureTree)) :=
  match rules.validation with
  | some source => validate subject (source.resolve call).value abortEarly
  | none => pure (.now none)

theorem value_validating_eq_some_iff {rules : CallRules ε} {call : Call} {abortEarly : Bool}
    {subject : Json.Fields} {failures : FailureTree} :
    (rules.validating call abortEarly subject).value.value = some failures ↔
      ∃ source, rules.validation = some source ∧
        (validate subject (source.resolve call).value abortEarly).value.value =
          some failures := by
  rw [validating]
  cases rules.validation with
  | none => simp
  | some source => simp

end CallRules

def Decision.failures? : Decision → Option FailureTree
  | .proceed _ => none
  | .rejected failures => some failures

namespace Guard

/-! ## After the transformation -/

def judge (guard : Guard ε) (rules : CallRules ε) (call : Call) (subject : Json.Fields) :
    Logged ε (Answer ε Decision) := do
  let failures ← rules.validating call guard.options.abortEarly subject
  failures.mapLogged (guard.conclude subject)

theorem value_conclude (guard : Guard ε) (subject : Json.Fields) (found : Option FailureTree) :
    (guard.conclude subject found).value =
      found.elim (.proceed (some subject)) .rejected := by
  cases found <;> rfl

theorem log_conclude (guard : Guard ε) (subject : Json.Fields) (found : Option FailureTree) :
    (guard.conclude subject found).log =
      found.toList.flatMap fun failures => (guard.report failures).log := by
  cases found with
  | none => rfl
  | some failures => rw [conclude, Logged.log_bind]; rfl

theorem value_judge (guard : Guard ε) (rules : CallRules ε) (call : Call)
    (subject : Json.Fields) :
    (guard.judge rules call subject).value.value =
      (rules.validating call guard.options.abortEarly subject).value.value.elim
        (.proceed (some subject)) .rejected := by
  rw [judge, Logged.value_bind, Answer.value_mapLogged, value_conclude]

theorem log_awaited_judge (guard : Guard ε) (rules : CallRules ε) (call : Call)
    (subject : Json.Fields) :
    let validated := rules.validating call guard.options.abortEarly subject
    (Answer.awaited (guard.judge rules call subject)).log =
      validated.log ++ validated.value.awaitLog ++
        validated.value.value.toList.flatMap fun failures => (guard.report failures).log := by
  intro validated
  have hconclude := Answer.log_awaited_mapLogged validated.value (guard.conclude subject)
  rw [Answer.log_awaited, log_conclude] at hconclude
  rw [Answer.log_awaited, judge, Logged.log_bind, Logged.value_bind, List.append_assoc,
    hconclude, List.append_assoc]

/-! ## The check -/

theorem check_of_arguments (guard : Guard ε) (rules : CallRules ε) {call : Call}
    {arguments : Json.Fields} (harguments : call.arguments = some arguments) :
    let transformed := rules.transforming call arguments
    let rest := transformed.value.andThen (guard.judge rules call)
    (guard.check rules call).value = rest.value ∧
      (guard.check rules call).log = Source.choiceLog rules.transformation call ++
        transformed.log ++ Source.choiceLog rules.validation call ++ rest.log := by
  obtain ⟨transformation, validation⟩ := rules
  rw [check, harguments]
  cases transformation with
  | none =>
      cases validation with
      | none => exact ⟨rfl, rfl⟩
      | some source => exact ⟨rfl, by simp [Source.choiceLog]; rfl⟩
  | some first =>
      cases validation with
      | none => exact ⟨rfl, by simp [Source.choiceLog]; rfl⟩
      | some source => exact ⟨rfl, by simp [Source.choiceLog]; rfl⟩

theorem value_check (guard : Guard ε) (rules : CallRules ε) {call : Call}
    {arguments : Json.Fields} (harguments : call.arguments = some arguments) :
    let subject := (rules.transforming call arguments).value.value
    (guard.check rules call).value.value =
      (rules.validating call guard.options.abortEarly subject).value.value.elim
        (.proceed (some subject)) .rejected := by
  intro subject
  rw [(guard.check_of_arguments rules harguments).1, Answer.value_andThen, value_judge]

theorem failures?_check (guard : Guard ε) (rules : CallRules ε) {call : Call}
    {arguments : Json.Fields} (harguments : call.arguments = some arguments) :
    let subject := (rules.transforming call arguments).value.value
    (guard.check rules call).value.value.failures? =
      (rules.validating call guard.options.abortEarly subject).value.value := by
  intro subject
  rw [guard.value_check rules harguments]
  cases (rules.validating call guard.options.abortEarly subject).value.value <;> rfl

theorem log_check (guard : Guard ε) (rules : CallRules ε) {call : Call}
    {arguments : Json.Fields} (harguments : call.arguments = some arguments) :
    let transformed := rules.transforming call arguments
    let validated := rules.validating call guard.options.abortEarly transformed.value.value
    let decision := (guard.check rules call).value.value
    ∃ before after,
      before ++ after = validated.log ++ validated.value.awaitLog ++
        decision.failures?.toList.flatMap (fun failures => (guard.report failures).log) ∧
      (guard.check rules call).log = Source.choiceLog rules.transformation call ++
        transformed.log ++ Source.choiceLog rules.validation call ++ before ∧
      (guard.check rules call).value.awaitLog = transformed.value.awaitLog ++ after := by
  intro transformed validated decision
  obtain ⟨hvalue, hlog⟩ := guard.check_of_arguments rules harguments
  obtain ⟨before, after, hsplit, hbefore, hafter⟩ :=
    Answer.log_andThen transformed.value (guard.judge rules call)
  have hfailures : decision.failures? = validated.value.value :=
    guard.failures?_check rules harguments
  refine ⟨before, after, ?_, ?_, ?_⟩
  · rw [hsplit, log_awaited_judge, hfailures]
  · rw [hlog, hbefore]
  · rw [hvalue, hafter]

/-- A call without arguments proceeds at once and nothing runs.  Else the schemas are chosen once
each, from the call as it came in, before anything is awaited; the call is rejected when the
transformed arguments fail, with their failures and one report of these, and proceeds with the
transformed arguments otherwise. -/
theorem check_decides_and_reports (guard : Guard ε) (rules : CallRules ε) (call : Call) :
    match call.arguments with
    | none => guard.check rules call = pure (.now (.proceed none))
    | some arguments =>
        let transformed := rules.transforming call arguments
        let subject := transformed.value.value
        let validated := rules.validating call guard.options.abortEarly subject
        let decision := (guard.check rules call).value.value
        (∀ failures, decision = .rejected failures ↔
          ∃ source, rules.validation = some source ∧
            (validate subject (source.resolve call).value
              guard.options.abortEarly).value.value = some failures) ∧
        (decision = .proceed (some subject) ↔ ∀ failures, decision ≠ .rejected failures) ∧
        ∃ before after,
          before ++ after = validated.log ++ validated.value.awaitLog ++
            decision.failures?.toList.flatMap (fun failures => (guard.report failures).log) ∧
          (guard.check rules call).log = Source.choiceLog rules.transformation call ++
            transformed.log ++ Source.choiceLog rules.validation call ++ before ∧
          (guard.check rules call).value.awaitLog = transformed.value.awaitLog ++ after := by
  cases harguments : call.arguments with
  | none =>
      dsimp only
      rw [check, harguments]
  | some arguments =>
      dsimp -zeta only
      intro transformed subject validated decision
      have hdecision : decision = validated.value.value.elim (.proceed (some subject)) .rejected :=
        guard.value_check rules harguments
      refine ⟨fun failures => ?_, ?_, guard.log_check rules harguments⟩
      · rw [← CallRules.value_validating_eq_some_iff, hdecision]
        change _ ↔ validated.value.value = some failures
        cases validated.value.value <;> simp
      · rw [hdecision]
        cases validated.value.value <;> simp

end Guard

end SubjectRules
