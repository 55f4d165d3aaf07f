import SubjectRules.Proofs.Json.LeafPaths
import SubjectRules.Proofs.Subject
import SubjectRules.Proofs.Validator.Verdict
import SubjectRules.Proofs.Walk.Outcome

/-!
# The report of a validation

A leaf fails when its verdict on the value at its path is a failure, unless a branch
around it is missing or null.  A validation that does not stop early reports the
failures of all leaves: each at its path, in definition order, and nothing else.
-/

namespace SubjectRules

variable {ε : Type}

/-- The failure at a site.  There is none inside a branch that is missing or null. -/
def Site.failure? (subject : Json.Fields) (site : Site (Validator ε)) : Option Failure :=
  match site.node with
  | .branch _ => none
  | .leaf rules =>
      if site.around.any fun (path, _) => isNothing (Json.Fields.lookup path subject) then none
      else Validator.leafVerdict rules (Json.Fields.lookup site.path subject)

def Schema.failures (subject : Json.Fields) (schema : Schema (Validator ε)) :
    List (FieldPath × Failure) :=
  schema.sites.filterMap fun site => (site.failure? subject).map (site.path, ·)

theorem Failure.fields?_toJson (failure : Failure) : failure.toJson.fields? = none := by
  cases failure <;> rfl

theorem value_answer_validation (subject : Json.Fields) (abortEarly : Bool)
    (visit : Visit (Validator ε)) :
    ((validation subject abortEarly).answer visit).value =
      Validator.leafVerdict visit.rules visit.value :=
  Validator.verdict_ofLeaf visit.rules visit.value

theorem entryAt_validation (subject : Json.Fields) (visit : Visit (Validator ε)) :
    (validation subject false).entryAt visit =
      (Validator.leafVerdict visit.rules visit.value).map (visit.path, ·) := by
  have hkeeps : (validation (ε := ε) subject false).keeps = fun _ => true := rfl
  rw [Walk.entryAt, value_answer_validation, hkeeps]
  cases Validator.leafVerdict visit.rules visit.value <;> rfl

theorem filterMap_entryAt_validation (subject : Json.Fields) (schema : Schema (Validator ε)) :
    ((validation subject false).visits schema).filterMap (validation subject false).entryAt =
      schema.failures subject := by
  have hvisits : (validation subject false).visits schema = schema.visitsBeside subject := rfl
  rw [hvisits, Schema.filterMap_visitsBeside, Schema.failures]
  refine List.filterMap_congr fun site _ => ?_
  obtain ⟨path, node, around⟩ := site
  cases node with
  | branch sub => simp [Site.visit?, Site.failure?]
  | leaf rules =>
      rw [Site.failure?]
      dsimp only
      split
      · rfl
      · exact entryAt_validation subject ⟨path, rules, Json.Fields.lookup path subject⟩

theorem value_validate (subject : Json.Fields) (schema : Schema (Validator ε)) :
    (validate subject schema false).value.value =
      if schema.failures subject = [] then none
      else some ⟨Json.Fields.assignAll []
        ((schema.failures subject).map fun (path, failure) => (path, failure.toJson))⟩ := by
  have hnever : ∀ failure, (validation (ε := ε) subject false).finds failure = false :=
    fun _ => rfl
  have hrun := Walk.resolve_run_of_never hnever schema
  rw [filterMap_entryAt_validation, Walk.written] at hrun
  rw [validate, Logged.value_bind, Logged.value_pure, Answer.value_map, hrun]
  cases schema.failures subject <;> rfl

/-! ## The report -/

theorem exists_leaf_of_failure? {subject : Json.Fields} {site : Site (Validator ε)}
    {failure : Failure} (hfailure : site.failure? subject = some failure) :
    ∃ rules, site.node = .leaf rules := by
  obtain ⟨path, node, around⟩ := site
  cases node with
  | branch sub => cases hfailure
  | leaf rules => exact ⟨rules, rfl⟩

theorem map_fst_failures_sublist (subject : Json.Fields) (schema : Schema (Validator ε)) :
    ((schema.failures subject).map Prod.fst).Sublist schema.leafPaths := by
  refine Schema.map_fst_filterMap_sites_sublist (fun site sub hnode => ?_) schema
  rw [Site.failure?, hnode]

def Schema.failureEntries (subject : Json.Fields) (schema : Schema (Validator ε)) :
    List (FieldPath × Json) :=
  (schema.failures subject).map fun (path, failure) => (path, failure.toJson)

theorem map_fst_failureEntries (subject : Json.Fields) (schema : Schema (Validator ε)) :
    (schema.failureEntries subject).map Prod.fst = (schema.failures subject).map Prod.fst := by
  rw [Schema.failureEntries, List.map_map]
  rfl

theorem pairwise_incomparable_failureEntries (subject : Json.Fields)
    {schema : Schema (Validator ε)} (hschema : schema.DistinctKeys) :
    (schema.failureEntries subject).Pairwise fun a b => Incomparable a.1 b.1 := by
  have hsub := map_fst_failures_sublist subject schema
  rw [← map_fst_failureEntries] at hsub
  have hpairwise := (Schema.pairwise_incomparable_leafPaths hschema).sublist hsub
  rwa [List.pairwise_map] at hpairwise

theorem ne_nil_of_mem_failures {subject : Json.Fields} {schema : Schema (Validator ε)}
    {path : FieldPath} {failure : Failure} (hmem : (path, failure) ∈ schema.failures subject) :
    path ≠ [] := by
  have hpath : path ∈ schema.leafPaths :=
    (map_fst_failures_sublist subject schema).mem (List.mem_map_of_mem hmem)
  exact Schema.ne_nil_of_mem_leafPaths hpath

theorem lookup_failureEntries_of_mem {subject : Json.Fields} {schema : Schema (Validator ε)}
    (hschema : schema.DistinctKeys) {path : FieldPath} {failure : Failure}
    (hmem : (path, failure) ∈ schema.failures subject) :
    Json.Fields.lookup path (Json.Fields.assignAll [] (schema.failureEntries subject)) =
      some failure.toJson := by
  have hentry : (path, failure.toJson) ∈ schema.failureEntries subject :=
    List.mem_map.mpr ⟨_, hmem, rfl⟩
  exact Json.Fields.lookup_assignAll_of_mem (pairwise_incomparable_failureEntries subject hschema)
    (ne_nil_of_mem_failures hmem) hentry []

theorem lookup_failureEntries {subject : Json.Fields} {schema : Schema (Validator ε)}
    (hschema : schema.DistinctKeys) {site : Site (Validator ε)} (hsite : site ∈ schema.sites)
    {rules : Leaf (Validator ε)} (hleaf : site.node = .leaf rules) :
    Json.Fields.lookup site.path (Json.Fields.assignAll [] (schema.failureEntries subject)) =
      (site.failure? subject).map Failure.toJson := by
  cases hfailure : site.failure? subject with
  | none =>
      have hother : ∀ entry ∈ schema.failureEntries subject, Incomparable entry.1 site.path := by
        intro entry hentry
        obtain ⟨⟨path, failure⟩, hmem, rfl⟩ := List.mem_map.mp hentry
        obtain ⟨other, hothers, hmap⟩ := List.mem_filterMap.mp hmem
        obtain ⟨found, hfound, heq⟩ := Option.map_eq_some_iff.mp hmap
        obtain ⟨rules', hleaf'⟩ := exists_leaf_of_failure? hfound
        cases heq
        have hne : other ≠ site := by
          rintro rfl
          rw [hfailure] at hfound
          cases hfound
        exact Schema.incomparable_of_mem_sites hschema hothers hsite hne hleaf' hleaf
      rw [Json.Fields.lookup_assignAll_of_incomparable hother, Json.Fields.lookup_nil]
      rfl
  | some failure =>
      have hmem : (site.path, failure) ∈ schema.failures subject :=
        List.mem_filterMap.mpr ⟨site, hsite, by rw [hfailure]; rfl⟩
      exact lookup_failureEntries_of_mem hschema hmem

theorem leaves_failureEntries {subject : Json.Fields} {schema : Schema (Validator ε)}
    (hschema : schema.DistinctKeys) :
    Json.fieldLeaves (Json.Fields.assignAll [] (schema.failureEntries subject)) =
      schema.failureEntries subject := by
  have hsub := map_fst_failures_sublist subject schema
  rw [← map_fst_failureEntries] at hsub
  refine Json.fieldLeaves_assignAll hschema hsub fun entry hentry => ?_
  obtain ⟨⟨path, failure⟩, -, rfl⟩ := List.mem_map.mp hentry
  exact failure.fields?_toJson

theorem leafPaths_failureEntries {subject : Json.Fields} {schema : Schema (Validator ε)}
    (hschema : schema.DistinctKeys) :
    Json.fieldLeafPaths (Json.Fields.assignAll [] (schema.failureEntries subject)) =
      (schema.failures subject).map Prod.fst := by
  rw [Json.fieldLeafPaths_eq, leaves_failureEntries hschema, map_fst_failureEntries]

theorem eq_of_validate_eq_some {subject : Json.Fields} {schema : Schema (Validator ε)}
    {report : FailureTree} (hreport : (validate subject schema false).value.value = some report) :
    report = ⟨Json.Fields.assignAll [] (schema.failureEntries subject)⟩ := by
  rw [value_validate] at hreport
  split at hreport
  · cases hreport
  · exact (Option.some.inj hreport).symm

theorem leafPaths_of_validate {subject : Json.Fields} {schema : Schema (Validator ε)}
    (hschema : schema.DistinctKeys) {report : FailureTree}
    (hreport : (validate subject schema false).value.value = some report) :
    report.leafPaths = (schema.failures subject).map Prod.fst := by
  rw [eq_of_validate_eq_some hreport]
  exact leafPaths_failureEntries hschema

/-- A validation passes when no leaf fails.  Else it reports at every leaf path the failure
there, if any, and has its leaves at the failing paths in definition order. -/
theorem validate_reports_failures {schema : Schema (Validator ε)} (hschema : schema.DistinctKeys)
    (subject : Json.Fields) :
    ((validate subject schema false).value.value = none ↔
        ∀ site ∈ schema.sites, site.failure? subject = none) ∧
      ∀ report, (validate subject schema false).value.value = some report →
        (∀ site ∈ schema.sites, ∀ rules, site.node = .leaf rules →
          report.get? site.path = (site.failure? subject).map Failure.toJson) ∧
        report.leafPaths = (schema.failures subject).map Prod.fst ∧
        report.fieldCount = (schema.failures subject).length := by
  rw [value_validate]
  constructor
  · have hnone : schema.failures subject = [] ↔
        ∀ site ∈ schema.sites, site.failure? subject = none := by
      simp [Schema.failures, List.filterMap_eq_nil_iff]
    rw [← hnone]
    split <;> simp_all
  · intro report hreport
    have hfields : report = ⟨Json.Fields.assignAll [] (schema.failureEntries subject)⟩ := by
      split at hreport
      · cases hreport
      · exact (Option.some.inj hreport).symm
    have hleaves : report.leafPaths = (schema.failures subject).map Prod.fst := by
      rw [hfields]
      exact leafPaths_failureEntries hschema
    refine ⟨?_, hleaves, ?_⟩
    · intro site hsite rules hleaf
      rw [hfields]
      exact lookup_failureEntries hschema hsite hleaf
    · rw [FailureTree.fieldCount_eq, hleaves, List.length_map]

/-- A check, settled at its second poll, that a value is there. -/
def lateCheck (code : String) : Validator Unit :=
  .raw fun value => pure (.later (.after 1 (.settled [()]
    (if value.isSome then none else some (.ofCode code)))))

theorem validate_reports_failures_nested :
    let schema : Schema (Validator Unit) :=
      .leaf "name" (.chain [lateCheck "a", .raw fun _ => pure (.now (some (.ofCode "b"))),
        lateCheck "c"])
      (.branch "inner" (.leaf "code" (.single (lateCheck "d")) .nil)
        (.branch "gone" (.leaf "code" (.single (lateCheck "e")) .nil) .nil))
    ∃ report, (validate [("inner", .str "flat"), ("name", .null)] schema false).value.value =
        some report ∧
      report.leafPaths = [["name"], ["inner", "code"]] ∧ report.fieldCount = 2 ∧
      report.get? ["name"] = some (Failure.ofCode "b").toJson := by
  intro schema
  have hschema : schema.DistinctKeys := by decide
  obtain ⟨hleaf, hleaves, hcount⟩ := (validate_reports_failures hschema
    [("inner", .str "flat"), ("name", .null)]).2 _ rfl
  refine ⟨_, rfl, hleaves, hcount, ?_⟩
  exact hleaf _ List.mem_cons_self _ rfl

end SubjectRules
