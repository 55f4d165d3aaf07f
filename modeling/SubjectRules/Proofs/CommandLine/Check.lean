import SubjectRules.Proofs.CommandLine.Labels
import SubjectRules.Proofs.Document.Accounting
import SubjectRules.Proofs.Document.Meaning
import SubjectRules.Proofs.Except
import SubjectRules.Proofs.Guard.Deferral

/-!
# The verdict of the check command

No rule of a document defers, so the guard of the command decides at once.  It lets a subject
pass exactly when a validation to the end finds nothing, whatever stops it early; how the
report is cut short or printed does not change the verdict.
-/

namespace SubjectRules

variable {ε : Type}

open Answer (Announced)

/-! ## Rules of a document -/

theorem Conversion.announced_transformer (defers : ε → Prop) (conversion : Conversion)
    (value : Option Json) : Announced defers ((transformer conversion).apply value) := .now _

namespace Rules

variable [PatternEngine]

theorem isNow_check (rules : Rules) (guard : Guard ε) (call : Call) :
    (guard.check rules.callRules call).value.isNow = true := by
  have hannounced : Announced (fun _ => False) (guard.check rules.callRules call) :=
    Guard.announced_check
      (fun arguments => announced_transform (Conversion.announced_transformer _) arguments _)
      (fun subject => announced_validate (Check.announced_validator _) subject _ _)
  exact hannounced.isNow fun _ _ => id

theorem failuresNow_eq_failures (rules : Rules) (subject : Json.Fields) :
    (rules.validators (ε := ε)).failuresNow subject =
      (rules.validators (ε := ε)).failures subject := by
  refine Schema.failuresNow_eq_failures fun visit hvisit => ?_
  obtain ⟨checks, rfl⟩ := Schema.exists_eq_map_of_mem_visitsBeside hvisit
  have hannounced := Validator.announced_ofLeaf (Check.announced_validator fun _ : ε => False)
    checks.rules checks.value
  exact hannounced.isNow fun _ _ => id

theorem leafPaths_sublist_of_validate {rules : Rules} (hrules : rules.validation.DistinctKeys)
    {subject : Json.Fields} {all : FailureTree}
    (hall : (validate (ε := ε) subject rules.validators false).value.value = some all) :
    all.leafPaths.Sublist rules.validation.leafPaths := by
  rw [leafPaths_of_validate (Schema.distinctKeys_map _ hrules) hall,
    ← Schema.leafPaths_map (Check.validator (ε := ε))]
  exact map_fst_failures_sublist subject rules.validators

end Rules

/-! ## One failure for all -/

/-- Whether a report holds nothing but the first failure of another. -/
def FailureTree.IsFirstOf (one all : FailureTree) : Prop :=
  ∃ path failure, one = single path failure ∧ all.leafPaths.head? = some path ∧
    all.get? path = some failure.toJson

theorem exists_first_of_validate {subject : Json.Fields} {schema : Schema (Validator ε)}
    (hschema : schema.DistinctKeys) (hnow : schema.failuresNow subject = schema.failures subject)
    {all : FailureTree} (hall : (validate subject schema false).value.value = some all) :
    ∃ one, (validate subject schema true).value.value = some one ∧ one.IsFirstOf all := by
  have hfails : schema.failures subject ≠ [] := by
    rw [Ne, ← validate_eq_none_iff, hall]
    exact Option.some_ne_none all
  obtain ⟨⟨path, failure⟩, rest, hfailures⟩ := List.exists_cons_of_ne_nil hfails
  have hmem : (path, failure) ∈ schema.failures subject := by
    rw [hfailures]
    exact List.mem_cons_self
  refine ⟨FailureTree.single path failure, ?_, path, failure, rfl, ?_, ?_⟩
  · rw [value_validate_early, hnow, hfailures]
    rfl
  · rw [leafPaths_of_validate hschema hall, hfailures]
    rfl
  · rw [eq_of_validate_eq_some hall]
    exact lookup_failureEntries_of_mem hschema hmem

namespace CommandLine

/-! ## The decision -/

section

variable [PatternEngine]

theorem decisionOn_eq (rules : Rules) (abortEarly : Bool) (subject : Json.Fields) :
    let transformed := (transform (ε := Empty) subject rules.transformers).value.value
    decisionOn rules abortEarly subject =
      (validate (ε := Empty) transformed rules.validators
        (rules.abortEarly.getD false || abortEarly)).value.value.elim
          (.proceed (some transformed)) .rejected :=
  (subjectGuard rules abortEarly).value_check rules.callRules rfl

/-- A subject passes when a validation of it to the end finds nothing; else the guard reports
what that finds, or the first of it alone. -/
theorem decisionOn_cases {rules : Rules} (hrules : rules.validation.DistinctKeys)
    (abortEarly : Bool) (subject : Json.Fields) :
    let transformed := (transform (ε := Empty) subject rules.transformers).value.value
    let found := (validate (ε := Empty) transformed rules.validators false).value.value
    (found = none ∧ decisionOn rules abortEarly subject = .proceed (some transformed)) ∨
      ∃ all reported, found = some all ∧
        decisionOn rules abortEarly subject = .rejected reported ∧
        if rules.abortEarly = some true ∨ abortEarly = true then reported.IsFirstOf all
        else reported = all := by
  intro transformed found
  have hkeys : (rules.validators (ε := Empty)).DistinctKeys := Schema.distinctKeys_map _ hrules
  have hstops : (rules.abortEarly = some true ∨ abortEarly = true) ↔
      (rules.abortEarly.getD false || abortEarly) = true := by
    cases rules.abortEarly <;> simp
  rw [decisionOn_eq]
  cases hfound : found with
  | none =>
      have hnone : ∀ stops, (validate (ε := Empty) transformed rules.validators
          stops).value.value = none := by
        intro stops
        rw [value_validate_eq_none_iff, ← validate_eq_none_iff]
        exact hfound
      exact .inl ⟨rfl, by rw [hnone]; rfl⟩
  | some all =>
      cases hearly : rules.abortEarly.getD false || abortEarly with
      | false =>
          have hnot : ¬ (rules.abortEarly = some true ∨ abortEarly = true) := by
            rw [hstops, hearly]
            exact Bool.false_ne_true
          exact .inr ⟨all, all, rfl, congrArg (Option.elim · _ _) hfound, (if_neg hnot).mpr rfl⟩
      | true =>
          obtain ⟨one, hone, hfirst⟩ := exists_first_of_validate hkeys
            (rules.failuresNow_eq_failures transformed) hfound
          exact .inr ⟨all, one, rfl, congrArg (Option.elim · _ _) hone,
            (if_pos (hstops.mpr hearly)).mpr hfirst⟩

theorem exists_failures_of_rejected {rules : Rules} (hrules : rules.validation.DistinctKeys)
    {abortEarly : Bool} {subject : Json.Fields} {report : FailureTree}
    (hrejected : decisionOn rules abortEarly subject = .rejected report) :
    ∃ failures : List (FieldPath × Failure),
      report.leaves = failures.map fun (path, failure) => (path, failure.toJson) := by
  have hkeys : (rules.validators (ε := Empty)).DistinctKeys := Schema.distinctKeys_map _ hrules
  have hfound : ∀ (passed : Option Json.Fields) (found : Option FailureTree),
      found.elim (.proceed passed) .rejected = Decision.rejected report → found = some report := by
    intro passed found hreport
    cases found with
    | none => cases hreport
    | some other => exact congrArg some (Decision.rejected.inj hreport)
  rw [decisionOn_eq] at hrejected
  exact ⟨_, leaves_of_validate hkeys (hfound _ _ hrejected)⟩

end

/-! ## What is printed -/

def passedLines (subject : Json) : Format → List String
  | .json => ["\x7b\"valid\":true,\"subject\":" ++ subject.text ++ "\x7d"]
  | .pretty => ["OK subject passed", subject.pretty]

/-- The report as it is, or a line on each failure.  The name of a field leaves out the empty keys
in front. -/
def failedLines (report : FailureTree) (failures : List (FieldPath × Failure)) :
    Format → List String
  | .json => ["\x7b\"valid\":false,\"errors\":" ++ report.toJson.text ++ "\x7d"]
  | .pretty =>
      ("FAILED " ++ toString failures.length ++ " field(s) failed") ::
        failures.map fun (path, failure) =>
          "  " ++ String.intercalate "." (path.dropWhile String.isEmpty) ++ ": " ++
            String.intercalate ", " failure.codes

theorem output_proceed (subject : Json.Fields) (format : Format) :
    (decisionReport format (.proceed (some subject))).output =
      passedLines (.obj subject) format := by
  cases format <;> rfl

theorem output_rejected {report : FailureTree} {failures : List (FieldPath × Failure)}
    (hleaves : report.leaves = failures.map fun (path, failure) => (path, failure.toJson))
    (format : Format) :
    (decisionReport format (.rejected report)).output = failedLines report failures format := by
  cases format with
  | json => rfl
  | pretty =>
      have hcount : report.fieldCount = failures.length := by
        rw [report.fieldCount_eq, report.leafPaths_eq, hleaves, List.length_map, List.length_map]
      have hlines : failureLines "" report.fields = failures.map fun (path, failure) =>
          reportLine (pathLabel (path.dropWhile String.isEmpty)) failure.codes := by
        rw [failureLines_fields, hleaves, List.map_map]
        refine List.map_congr_left fun entry _ => ?_
        rw [Function.comp_apply, entry.2.wireCodes_toJson]
      rw [decisionReport, hcount, hlines]
      rfl

/-! ## The command -/

section

variable [PatternEngine] [Yaml.JsonForm] [TextReaders]

variable {files : Files} {path text : String} {input : Option String} {document : Document}
  {subject : Json.Fields}

/-- Faults of the document are messages, and no part of the output. -/
theorem run_check_eq (hdocument : readDocument files path = .ok document)
    (htext : readInput files input = .ok text) (hsubject : parseSubject text = .ok subject)
    (abortEarly : Bool) (format : Format) (verbosity : Nat) :
    let outcome := run files ⟨.check path input abortEarly, format, verbosity⟩
    let report := decisionReport format (decisionOn document.compile abortEarly subject)
    outcome.exit = report.exit ∧ outcome.output = report.output := by
  intro outcome report
  have hrun : outcome = check files format document.compile input abortEarly := by
    simp only [outcome, run, hdocument]
  have hread : (readInput files input >>= parseSubject) = .ok subject := by
    rw [htext]
    exact hsubject
  rw [hrun]
  cases format <;> simp only [check, hread] <;> exact ⟨rfl, rfl⟩

theorem run_check_cases (hdocument : readDocument files path = .ok document)
    (htext : readInput files input = .ok text) (hsubject : parseSubject text = .ok subject)
    (abortEarly : Bool) (format : Format) (verbosity : Nat) :
    let rules := document.compile
    let outcome := run files ⟨.check path input abortEarly, format, verbosity⟩
    let transformed := (transform (ε := Empty) subject rules.transformers).value.value
    let found := (validate (ε := Empty) transformed rules.validators false).value.value
    (found = none ∧ outcome.exit = 0 ∧ outcome.output = passedLines (.obj transformed) format) ∨
      ∃ (all reported : FailureTree) (failures : List (FieldPath × Failure)),
        found = some all ∧ outcome.exit = 1 ∧
          reported.leaves = failures.map (fun (path, failure) => (path, failure.toJson)) ∧
          outcome.output = failedLines reported failures format ∧
          if document.abortEarly = some true ∨ abortEarly = true then reported.IsFirstOf all
          else reported = all := by
  intro rules outcome transformed found
  have hvalidation : rules.validation.DistinctKeys :=
    RuleReader.distinctKeys_schema_compileEntries ["validate"] document.validation
  obtain ⟨hexit, houtput⟩ := run_check_eq hdocument htext hsubject abortEarly format verbosity
  rcases decisionOn_cases hvalidation abortEarly subject with
    ⟨hfound, hdecision⟩ | ⟨all, reported, hfound, hdecision, hreported⟩
  · rw [hdecision] at hexit houtput
    exact .inl ⟨hfound, hexit, houtput.trans (output_proceed transformed format)⟩
  · obtain ⟨failures, hleaves⟩ := exists_failures_of_rejected hvalidation hdecision
    rw [hdecision] at hexit houtput
    exact .inr ⟨all, reported, failures, hfound, hexit, hleaves,
      houtput.trans (output_rejected hleaves format), hreported⟩

/-- The command ends with 0 when a validation of the transformed subject to its end finds nothing
and prints that subject, and else ends with 1.  Unless the document or the command line asks to
stop early it then prints all failures, which lie at fields in document order, and if one of them
does it prints the first.  In no case does the guard defer its decision. -/
theorem run_check_decides (hdocument : readDocument files path = .ok document)
    (htext : readInput files input = .ok text) (hsubject : parseSubject text = .ok subject)
    (abortEarly : Bool) (format : Format) (verbosity : Nat) :
    let rules := document.compile
    let outcome := run files ⟨.check path input abortEarly, format, verbosity⟩
    let transformed := (transform (ε := Empty) subject rules.transformers).value.value
    let found := (validate (ε := Empty) transformed rules.validators false).value.value
    ((outcome.exit = 0 ↔ found = none) ∧ (outcome.exit = 1 ↔ found ≠ none)) ∧
      (found = none → outcome.output = passedLines (.obj transformed) format) ∧
      (∀ all, found = some all →
        ∃ (reported : FailureTree) (failures : List (FieldPath × Failure)),
          reported.leaves = failures.map (fun (path, failure) => (path, failure.toJson)) ∧
          outcome.output = failedLines reported failures format ∧
          if document.abortEarly = some true ∨ abortEarly = true then reported.IsFirstOf all
          else reported = all) ∧
      (∀ all, found = some all → all.leafPaths.Sublist rules.validation.leafPaths) ∧
      (document.validation.DistinctNames → rules.validation.leaves =
        (FieldEntry.ofEntries [] document.validation).filterMap
          (FieldEntry.leaf? Check.ofYaml ["validate"])) ∧
      ∀ call, ((subjectGuard rules abortEarly).check rules.callRules call).value.isNow = true := by
  intro rules outcome transformed found
  have hready : ∀ call, ((subjectGuard rules abortEarly).check rules.callRules call).value.isNow =
      true := rules.isNow_check _
  have horder : document.validation.DistinctNames → rules.validation.leaves =
      (FieldEntry.ofEntries [] document.validation).filterMap
        (FieldEntry.leaf? Check.ofYaml ["validate"]) :=
    fun hnames => RuleReader.leavesFrom_schema_compileEntries hnames ["validate"] []
  have hsublist : ∀ all, found = some all → all.leafPaths.Sublist rules.validation.leafPaths :=
    fun _ => Rules.leafPaths_sublist_of_validate
      (RuleReader.distinctKeys_schema_compileEntries ["validate"] document.validation)
  rcases run_check_cases hdocument htext hsubject abortEarly format verbosity with
    ⟨hfound, hexit, hprinted⟩ | ⟨all, reported, failures, hfound, hexit, hreport⟩
  · change found = none at hfound
    change outcome.exit = 0 at hexit
    refine ⟨?_, fun _ => hprinted, ?_, hsublist, horder, hready⟩
    · simp [hexit, hfound]
    · intro all hall
      rw [hfound] at hall
      cases hall
  · change found = some all at hfound
    change outcome.exit = 1 at hexit
    refine ⟨?_, ?_, ?_, hsublist, horder, hready⟩
    · simp [hexit, hfound]
    · intro hnone
      rw [hfound] at hnone
      cases hnone
    · intro other hother
      rw [hfound] at hother
      cases hother
      exact ⟨reported, failures, hreport⟩

end

/-- A document that stops early, and a subject without either of its fields. -/
theorem run_check_decides_early :
    let source := "abort_early: true\nvalidate:\n  a: required\n  b: required\n"
    let files : Files := { read := fun _ => .ok source, standardInput := some "\x7b\x7d" }
    let outcome := run files ⟨.check "rules" none false, .pretty, 0⟩
    outcome.exit = 1 ∧ outcome.output = ["FAILED 1 field(s) failed", "  a: required"] ∧
      ∃ (all reported : FailureTree) (failures : List (FieldPath × Failure)),
        reported.leaves = failures.map (fun (path, failure) => (path, failure.toJson)) ∧
          outcome.output = failedLines reported failures .pretty ∧ reported.IsFirstOf all := by
  intro source files outcome
  have hstops : (readDocument files "rules").toOption.bind Document.abortEarly = some true := by
    decide +kernel
  have hobject : (parseSubject "\x7b\x7d").toOption.isSome = true := by decide +kernel
  obtain ⟨document, hread, hearly⟩ := Option.bind_eq_some_iff.mp hstops
  obtain ⟨subject, hparse⟩ := Option.isSome_iff_exists.mp hobject
  have hdocument := Except.eq_ok_of_toOption hread
  have hsubject := Except.eq_ok_of_toOption hparse
  have htext : readInput files none = .ok "\x7b\x7d" := rfl
  have hexit : outcome.exit = 1 := by decide +kernel
  obtain ⟨⟨-, hfails⟩, -, hreport, -⟩ := run_check_decides hdocument htext hsubject false .pretty 0
  obtain ⟨all, hall⟩ := Option.ne_none_iff_exists'.mp (hfails.mp hexit)
  obtain ⟨reported, failures, hleaves, houtput, hfirst⟩ := hreport all hall
  rw [if_pos (.inl hearly)] at hfirst
  exact ⟨hexit, by decide +kernel, all, reported, failures, hleaves, houtput, hfirst⟩

end CommandLine

end SubjectRules
