import SubjectRules.Proofs.Subject
import SubjectRules.Proofs.Validation

/-!
# Validations that stop early

A validation that stops early ends at the first failure that is there at once.  Only when
no leaf fails at once are the promised verdicts awaited, and then the first of their
failures is reported.  So what it reports is always one of the failures that a validation
without a stop collects, but not always the first of them.
-/

namespace SubjectRules

variable {ε ε' : Type}

/-! ## The failures of a schema -/

def Visit.failure? (visit : Visit (Validator ε)) : Option (FieldPath × Failure) :=
  (Validator.leafVerdict visit.rules visit.value).map (visit.path, ·)

def Visit.answersNow (visit : Visit (Validator ε)) : Bool :=
  ((Validator.ofLeaf visit.rules).check visit.value).value.isNow

namespace Schema

theorem failures_eq_filterMap (subject : Json.Fields) (schema : Schema (Validator ε)) :
    schema.failures subject = (schema.visitsBeside subject).filterMap Visit.failure? := by
  have hentry : (validation (ε := ε) subject false).entryAt = Visit.failure? :=
    funext (entryAt_validation subject)
  rw [← filterMap_entryAt_validation, hentry]
  rfl

theorem failures_eq_filterMap_verdicts (subject : Json.Fields) (schema : Schema (Validator ε)) :
    schema.failures subject =
      ((schema.map Validator.verdict).visitsBeside subject).filterMap fun visit =>
        (Validator.firstFailure visit.rules visit.value).map (visit.path, ·) := by
  rw [visitsBeside_map, List.filterMap_map, failures_eq_filterMap]
  refine List.filterMap_congr fun visit _ => ?_
  rw [Visit.failure?, Validator.leafVerdict_eq_firstFailure]
  rfl

theorem failures_congr {schema : Schema (Validator ε)} {other : Schema (Validator ε')}
    (hsame : schema.map Validator.verdict = other.map Validator.verdict)
    (subject : Json.Fields) : schema.failures subject = other.failures subject := by
  rw [failures_eq_filterMap_verdicts, failures_eq_filterMap_verdicts, hsame]

def failuresNow (subject : Json.Fields) (schema : Schema (Validator ε)) :
    List (FieldPath × Failure) :=
  ((schema.visitsBeside subject).filter Visit.answersNow).filterMap Visit.failure?

theorem failuresNow_subset (subject : Json.Fields) (schema : Schema (Validator ε)) :
    schema.failuresNow subject ⊆ schema.failures subject := by
  rw [failures_eq_filterMap]
  exact (List.filter_sublist.filterMap _).subset

theorem mem_failures_of_head? {subject : Json.Fields} {schema : Schema (Validator ε)}
    {first : FieldPath × Failure}
    (hhead : (schema.failuresNow subject ++ schema.failures subject).head? = some first) :
    first ∈ schema.failures subject := by
  rcases List.mem_append.mp (List.mem_of_head? hhead) with hnow | hall
  · exact schema.failuresNow_subset subject hnow
  · exact hall

theorem failuresNow_eq_failures {subject : Json.Fields} {schema : Schema (Validator ε)}
    (hnow : ∀ visit ∈ schema.visitsBeside subject, visit.answersNow = true) :
    schema.failuresNow subject = schema.failures subject := by
  rw [failuresNow, List.filter_eq_self.mpr hnow, failures_eq_filterMap]

end Schema

/-! ## One failure alone -/

namespace FailureTree

def single (path : FieldPath) (failure : Failure) : FailureTree :=
  ⟨Json.Fields.single path failure.toJson⟩

variable {path : FieldPath} (hpath : path ≠ []) (failure : Failure)
include hpath

theorem get?_single : (single path failure).get? path = some failure.toJson := by
  rw [get?, single, ← Json.Fields.assign_nil_fields]
  exact Json.Fields.lookup_assign_self path hpath failure.toJson []

theorem leaves_single : (single path failure).leaves = [(path, failure.toJson)] :=
  Json.fieldLeaves_single hpath failure.fields?_toJson

theorem leafPaths_single : (single path failure).leafPaths = [path] := by
  rw [leafPaths_eq, leaves_single hpath]
  rfl

theorem fieldCount_single : (single path failure).fieldCount = 1 := by
  rw [fieldCount_eq, leafPaths_single hpath]
  rfl

end FailureTree

/-! ## The early report -/

theorem hitNow_validation (subject : Json.Fields) (visit : Visit (Validator ε)) :
    (validation subject true).hitNow visit =
      if visit.answersNow then visit.failure? else none := by
  have hnow : visit.answersNow = ((validation subject true).answer visit).isNow := rfl
  rw [Walk.hitNow, Visit.failure?, hnow, ← value_answer_validation subject true]
  cases (validation subject true).answer visit with
  | later promise => rfl
  | now result? => cases result? <;> rfl

theorem hitLater_validation (subject : Json.Fields) (visit : Visit (Validator ε)) :
    (validation subject true).hitLater visit =
      if visit.answersNow then none else visit.failure? := by
  have hnow : visit.answersNow = ((validation subject true).answer visit).isNow := rfl
  rw [Walk.hitLater, Visit.failure?, hnow, ← value_answer_validation subject true]
  cases (validation subject true).answer visit with
  | now result? => rfl
  | later promise =>
      have hfilter : promise.value.filter (validation (ε := ε) subject true).finds =
          promise.value := by cases promise.value <;> rfl
      dsimp only
      rw [hfilter]
      rfl

theorem findSome?_hitNow (subject : Json.Fields) (schema : Schema (Validator ε)) :
    (schema.visitsBeside subject).findSome? (validation subject true).hitNow =
      (schema.failuresNow subject).head? := by
  have hhits : (validation (ε := ε) subject true).hitNow =
      fun visit => if visit.answersNow then visit.failure? else none :=
    funext (hitNow_validation subject)
  rw [Schema.failuresNow, List.filterMap_filter, List.head?_filterMap, hhits]

theorem findSome?_hitLater {subject : Json.Fields} {schema : Schema (Validator ε)}
    (hnow : schema.failuresNow subject = []) :
    (schema.visitsBeside subject).findSome? (validation subject true).hitLater =
      (schema.failures subject).head? := by
  rw [Schema.failures_eq_filterMap, ← List.head?_filterMap]
  congr 1
  refine List.filterMap_congr fun visit hvisit => ?_
  rw [hitLater_validation]
  cases hanswers : visit.answersNow with
  | false => rfl
  | true =>
      rw [Schema.failuresNow, List.filterMap_eq_nil_iff] at hnow
      have hpasses := hnow visit (List.mem_filter.mpr ⟨hvisit, hanswers⟩)
      rw [if_pos rfl, hpasses]

/-- The first failure that is there at once is reported, else the first of all. -/
theorem value_validate_early (subject : Json.Fields) (schema : Schema (Validator ε)) :
    (validate subject schema true).value.value =
      ((schema.failuresNow subject ++ schema.failures subject).head?).map fun entry =>
        FailureTree.single entry.1 entry.2 := by
  have halone : ∀ entry : FieldPath × Failure,
      (validation (ε := ε) subject true).alone entry.1 entry.2 =
        Json.Fields.single entry.1 entry.2.toJson :=
    fun entry => Json.Fields.assign_nil_fields entry.1 entry.2.toJson
  have hvisits : (validation subject true).visits schema = schema.visitsBeside subject := rfl
  rw [validate, Logged.value_bind, Logged.value_pure, Answer.value_map, Walk.resolve_run,
    Walk.resolved, hvisits, findSome?_hitNow, List.head?_append]
  cases hnow : schema.failuresNow subject with
  | cons entry rest => exact congrArg (fun fields => some (FailureTree.mk fields)) (halone entry)
  | nil =>
      rw [findSome?_hitLater hnow]
      cases hfailures : schema.failures subject with
      | cons entry rest =>
          exact congrArg (fun fields => some (FailureTree.mk fields)) (halone entry)
      | nil =>
          have hentries : (schema.visitsBeside subject).filterMap
              (validation (ε := ε) subject true).entryAt = [] :=
            (filterMap_entryAt_validation subject schema).trans hfailures
          simp only [List.head?_nil, hentries]
          rfl

theorem validate_early_eq_none_iff (subject : Json.Fields) (schema : Schema (Validator ε)) :
    (validate subject schema true).value.value = none ↔ schema.failures subject = [] := by
  rw [value_validate_early, Option.map_eq_none_iff, List.head?_eq_none_iff,
    List.append_eq_nil_iff]
  refine ⟨And.right, fun hnone => ⟨?_, hnone⟩⟩
  have hsubset := schema.failuresNow_subset subject
  rw [hnone] at hsubset
  exact List.subset_nil.mp hsubset

theorem exists_failure_of_validate_early {subject : Json.Fields} {schema : Schema (Validator ε)}
    {report : FailureTree} (hreport : (validate subject schema true).value.value = some report) :
    ∃ path failure, (path, failure) ∈ schema.failures subject ∧
      report = FailureTree.single path failure := by
  rw [value_validate_early, Option.map_eq_some_iff] at hreport
  obtain ⟨⟨path, failure⟩, hhead, rfl⟩ := hreport
  exact ⟨path, failure, schema.mem_failures_of_head? hhead, rfl⟩

/-! ## Both modes -/

theorem validate_eq_none_iff (subject : Json.Fields) (schema : Schema (Validator ε)) :
    (validate subject schema false).value.value = none ↔ schema.failures subject = [] := by
  rw [value_validate]
  split <;> simp_all

theorem value_validate_eq_none_iff (subject : Json.Fields) (schema : Schema (Validator ε))
    (abortEarly : Bool) :
    (validate subject schema abortEarly).value.value = none ↔ schema.failures subject = [] := by
  cases abortEarly with
  | false => exact validate_eq_none_iff subject schema
  | true => exact validate_early_eq_none_iff subject schema

/-- The failures that a validation reports, in definition order. -/
def Schema.reported (subject : Json.Fields) (abortEarly : Bool) (schema : Schema (Validator ε)) :
    List (FieldPath × Failure) :=
  if abortEarly then (schema.failuresNow subject ++ schema.failures subject).head?.toList
  else schema.failures subject

theorem map_fst_reported_sublist (subject : Json.Fields) (abortEarly : Bool)
    (schema : Schema (Validator ε)) :
    ((schema.reported subject abortEarly).map Prod.fst).Sublist schema.leafPaths := by
  refine List.Sublist.trans ?_ (map_fst_failures_sublist subject schema)
  cases abortEarly with
  | false => exact List.Sublist.refl _
  | true =>
      rw [Schema.reported, if_pos rfl]
      cases hhead : (schema.failuresNow subject ++ schema.failures subject).head? with
      | none => exact List.nil_sublist _
      | some first =>
          have hmem := schema.mem_failures_of_head? hhead
          exact List.singleton_sublist.mpr (List.mem_map_of_mem hmem)

theorem leaves_of_validate {subject : Json.Fields} {schema : Schema (Validator ε)}
    (hschema : schema.DistinctKeys) {abortEarly : Bool} {report : FailureTree}
    (hreport : (validate subject schema abortEarly).value.value = some report) :
    report.leaves = (schema.reported subject abortEarly).map fun (path, failure) =>
      (path, failure.toJson) := by
  cases abortEarly with
  | false =>
      rw [eq_of_validate_eq_some hreport]
      exact leaves_failureEntries hschema
  | true =>
      rw [value_validate_early, Option.map_eq_some_iff] at hreport
      obtain ⟨⟨path, failure⟩, hhead, rfl⟩ := hreport
      have hpath := ne_nil_of_mem_failures (schema.mem_failures_of_head? hhead)
      rw [FailureTree.leaves_single hpath, Schema.reported, if_pos rfl, hhead]
      rfl

/-- Of two validations whose rules have the same verdicts, the one that stops early passes when
the one that does not passes.  Else its report holds one of the failures that the other collects,
at the same path. -/
theorem validate_modes_agree {early : Schema (Validator ε)} {full : Schema (Validator ε')}
    (hkeys : full.DistinctKeys)
    (hsame : early.map Validator.verdict = full.map Validator.verdict) (subject : Json.Fields) :
    ((validate subject early true).value.value = none ↔
        (validate subject full false).value.value = none) ∧
      ∀ one all, (validate subject early true).value.value = some one →
        (validate subject full false).value.value = some all →
        one.fieldCount = 1 ∧ ∃ path ∈ all.leafPaths, one.leafPaths = [path] ∧
          ∃ failure : Failure, one.get? path = some failure.toJson ∧
            all.get? path = some failure.toJson := by
  have hfailures := Schema.failures_congr hsame subject
  constructor
  · rw [validate_early_eq_none_iff, validate_eq_none_iff, hfailures]
  · intro one all hone hall
    obtain ⟨path, failure, hmem, rfl⟩ := exists_failure_of_validate_early hone
    rw [hfailures] at hmem
    have hpath := ne_nil_of_mem_failures hmem
    have hfields := eq_of_validate_eq_some hall
    refine ⟨FailureTree.fieldCount_single hpath failure, path, ?_,
      FailureTree.leafPaths_single hpath failure, failure,
      FailureTree.get?_single hpath failure, ?_⟩
    · rw [leafPaths_of_validate hkeys hall]
      exact List.mem_map_of_mem hmem
    · rw [hfields]
      exact lookup_failureEntries_of_mem hkeys hmem

def promptCheck (code : String) : Validator Unit :=
  .raw fun value => pure (.now (if value.isSome then none else some (.ofCode code)))

theorem validate_modes_agree_mixed :
    let early : Schema (Validator Unit) := .branch "inner"
      (.leaf "name" (.single (lateCheck "a")) (.leaf "age" (.chain [promptCheck "b"]) .nil)) .nil
    let full : Schema (Validator Unit) := .branch "inner"
      (.leaf "name" (.single (promptCheck "a")) (.leaf "age" (.chain [lateCheck "b"]) .nil)) .nil
    ∃ one all, (validate [("inner", .bool true)] early true).value.value = some one ∧
      (validate [("inner", .bool true)] full false).value.value = some all ∧
      one.fieldCount = 1 ∧ ∃ path ∈ all.leafPaths, one.leafPaths = [path] ∧
        ∃ failure : Failure, one.get? path = some failure.toJson ∧
          all.get? path = some failure.toJson := by
  intro early full
  have hkeys : full.DistinctKeys := by decide
  have hsame : early.map Validator.verdict = full.map Validator.verdict := rfl
  have hmodes := (validate_modes_agree hkeys hsame [("inner", .bool true)]).2
  exact ⟨_, _, rfl, rfl, hmodes _ _ rfl rfl⟩

/-! ## Which failure is reported -/

/-- A failure that comes later in definition order is reported when it is there at once and
those before it are promised. -/
theorem not_validate_early_reports_first_failure :
    ¬ ∀ (schema : Schema (Validator Unit)), schema.DistinctKeys →
      ∀ (subject : Json.Fields) (first : FieldPath × Failure),
        (schema.failures subject).head? = some first →
        (validate subject schema true).value.value =
          some (FailureTree.single first.1 first.2) := by
  intro hclaim
  have hkeys : (Schema.leaf "a" (.single (lateCheck "a"))
      (.leaf "b" (.single (promptCheck "b")) .nil)).DistinctKeys := by decide
  have hfirst := hclaim _ hkeys [] (["a"], .ofCode "a") rfl
  have hnames : some ["b"] = some ["a"] := congrArg
    (Option.map fun report : FailureTree => report.fields.map Prod.fst) hfirst
  exact absurd hnames (by decide)

/-- When a leaf fails, the report holds one failure: the first in definition order of those that
are there at once, and only when there is none of these the first of all.  So it is the first of
all when that is there at once or none is; and promises change it only at leaves that fail. -/
theorem validate_early_reports_first_prompt {subject : Json.Fields}
    {schema : Schema (Validator ε)} {site : Site (Validator ε)} (hsite : site ∈ schema.sites)
    {failure : Failure} (hfails : site.failure? subject = some failure) :
    ∃ first ∈ schema.failures subject,
      (schema.failuresNow subject).head?.or (schema.failures subject).head? = some first ∧
      (∃ report, (validate subject schema true).value.value = some report ∧
        report.leafPaths = [first.1] ∧ report.fieldCount = 1 ∧
        report.get? first.1 = some first.2.toJson) ∧
      ((schema.failures subject).head? = some first ↔ schema.failuresNow subject = [] ∨
        (schema.failuresNow subject).head? = (schema.failures subject).head?) ∧
      ∀ other : Schema (Validator ε), other.failures subject = schema.failures subject →
        other.failuresNow subject = schema.failuresNow subject →
        (validate subject other true).value.value = (validate subject schema true).value.value := by
  have hmem : (site.path, failure) ∈ schema.failures subject :=
    List.mem_filterMap.mpr ⟨site, hsite, by rw [hfails]; rfl⟩
  have hnone : (validate subject schema true).value.value ≠ none := by
    rw [Ne, validate_early_eq_none_iff]
    exact List.ne_nil_of_mem hmem
  obtain ⟨report, hreport⟩ := Option.ne_none_iff_exists'.mp hnone
  have hhead := hreport
  rw [value_validate_early, Option.map_eq_some_iff] at hhead
  obtain ⟨⟨path, found⟩, hfirst, rfl⟩ := hhead
  have hfound := schema.mem_failures_of_head? hfirst
  rw [List.head?_append] at hfirst
  have hpath := ne_nil_of_mem_failures hfound
  refine ⟨(path, found), hfound, hfirst, ⟨_, hreport, FailureTree.leafPaths_single hpath found,
    FailureTree.fieldCount_single hpath found, FailureTree.get?_single hpath found⟩, ?_, ?_⟩
  · cases hnow : schema.failuresNow subject with
    | nil => simpa [hnow] using hfirst
    | cons entry rest =>
        have hentry : entry = (path, found) := by simpa [hnow] using hfirst
        rw [hentry, List.head?_cons]
        constructor
        · intro hall
          exact .inr hall.symm
        · rintro (hnil | hsame)
          · cases hnil
          · exact hsame.symm
  · intro other hfailures hfailuresNow
    rw [value_validate_early, value_validate_early, hfailures, hfailuresNow]

theorem validate_early_reports_first_prompt_mixed :
    let schema : Schema (Validator Unit) := .leaf "a" (.single (lateCheck "a"))
      (.leaf "b" (.single (promptCheck "b")) (.leaf "c" (.single (promptCheck "c")) .nil))
    ∃ first ∈ schema.failures [],
      (schema.failuresNow []).head?.or (schema.failures []).head? = some first ∧
      ∃ report, (validate [] schema true).value.value = some report ∧
        report.leafPaths = [first.1] ∧ first = (["b"], .ofCode "b") := by
  intro schema
  have hsite : (⟨["b"], .leaf (.single (promptCheck "b")), []⟩ : Site (Validator Unit)) ∈
      schema.sites := List.mem_cons_of_mem _ List.mem_cons_self
  have hfails : Site.failure? [] (⟨["b"], .leaf (.single (promptCheck "b")), []⟩ :
      Site (Validator Unit)) = some (.ofCode "b") := rfl
  obtain ⟨first, hmem, hfirst, ⟨report, hreport, hleaves, -⟩, -⟩ :=
    validate_early_reports_first_prompt hsite hfails
  have hb : (["b"], Failure.ofCode "b") = first := Option.some.inj hfirst
  exact ⟨first, hmem, hfirst, report, hreport, hleaves, hb.symm⟩

end SubjectRules
