import Mathlib.Logic.Relation
import SubjectRules.Proofs.Json.Removal
import SubjectRules.Proofs.Schema.Around
import SubjectRules.Proofs.Validation.Early

/-!
# Validating less data

Rules that skip missing and null values have nothing to say about data that was taken out.  At
every leaf a removal leaves the value that was there, null or nothing.  A value other than null
keeps all branches around its leaf open, also in the object that it was taken from, and gets the
same verdict there.
-/

namespace SubjectRules

variable {ε ρ : Type}

/-- One removal from an object, at a position that is not strictly below a leaf. -/
def Schema.Removal (s : Schema ρ) (first second : Json.Fields) : Prop :=
  ∃ position, (∀ path ∈ s.leafPaths,
      path.map Json.Step.key <+: position → path.map Json.Step.key = position) ∧
    Json.Removal position (.obj first) (.obj second)

theorem Schema.Removal.lookup {s : Schema ρ} {first second : Json.Fields}
    (hremoval : s.Removal first second) {path : FieldPath} (hpath : path ∈ s.leafPaths)
    {value : Json} (hvalue : Json.Fields.lookup path second = some value)
    (hnull : value ≠ .null) : Json.Fields.lookup path first = some value := by
  obtain ⟨position, hposition, hremoval⟩ := hremoval
  have hne := Schema.ne_nil_of_mem_leafPaths hpath
  rw [← Json.at?_obj hne] at hvalue ⊢
  exact hremoval.at? (hposition path hpath) hvalue hnull

theorem lookup_of_removals {s : Schema ρ} {first second : Json.Fields}
    (hremovals : Relation.ReflTransGen s.Removal first second) {path : FieldPath}
    (hpath : path ∈ s.leafPaths) {value : Json}
    (hvalue : Json.Fields.lookup path second = some value) (hnull : value ≠ .null) :
    Json.Fields.lookup path first = some value := by
  induction hremovals with
  | refl => exact hvalue
  | tail _ hlast ih => exact ih (hlast.lookup hpath hvalue hnull)

theorem failure?_of_leaf {subject : Json.Fields} {site : Site (Validator ε)}
    {rules : Leaf (Validator ε)} (hleaf : site.node = .leaf rules) :
    site.failure? subject = if site.isShut subject then none
      else Validator.leafVerdict rules (Json.Fields.lookup site.path subject) := by
  rw [Site.failure?, hleaf]
  rfl

/-! ## Verdicts of rules that skip -/

namespace Validator

variable (check : Json → Logged ε (Answer ε Verdict))

theorem verdict_skipping_of_isNothing {value : Option Json} (hvalue : isNothing value = true) :
    (skipping check).verdict value = none := by
  match value with
  | none => rfl
  | some .null => rfl

theorem leafVerdict_skipping_of_isNothing (rules : Leaf (Json → Logged ε (Answer ε Verdict)))
    {value : Option Json} (hvalue : isNothing value = true) :
    leafVerdict (rules.map skipping) value = none := by
  cases rules with
  | single check => exact verdict_skipping_of_isNothing check hvalue
  | chain checks =>
      rw [Leaf.map, leafVerdict, List.findSome?_map, List.findSome?_eq_none_iff]
      exact fun check _ => verdict_skipping_of_isNothing check hvalue

end Validator

/-! ## Failures after removals -/

variable {checks : Schema (Json → Logged ε (Answer ε Verdict))} {first second : Json.Fields}

theorem exists_rules_of_skipping_leaf {site : Site (Validator ε)}
    (hsite : site ∈ (checks.map Validator.skipping).sites) {rules : Leaf (Validator ε)}
    (hleaf : site.node = .leaf rules) : ∃ source, rules = Leaf.map Validator.skipping source := by
  have hsites : (checks.map Validator.skipping).sites =
      checks.sites.map (Site.map Validator.skipping) :=
    Schema.sitesFrom_map Validator.skipping [] [] checks
  rw [hsites, List.mem_map] at hsite
  obtain ⟨origin, -, rfl⟩ := hsite
  cases hnode : origin.node with
  | branch sub => simp [Site.map, hnode] at hleaf
  | leaf source => exact ⟨source, by simpa [Site.map, hnode] using hleaf.symm⟩

theorem exists_value_of_failure? {site : Site (Validator ε)}
    (hsite : site ∈ (checks.map Validator.skipping).sites) {failure : Failure}
    (hfails : site.failure? second = some failure) :
    ∃ rules value, site.node = .leaf rules ∧ value ≠ .null ∧
      Json.Fields.lookup site.path second = some value ∧
      Validator.leafVerdict rules (some value) = some failure := by
  obtain ⟨rules, hleaf⟩ := exists_leaf_of_failure? hfails
  obtain ⟨source, rfl⟩ := exists_rules_of_skipping_leaf hsite hleaf
  rw [failure?_of_leaf hleaf] at hfails
  split at hfails
  · cases hfails
  cases hvalue : Json.Fields.lookup site.path second with
  | none =>
      rw [hvalue, Validator.leafVerdict_skipping_of_isNothing source rfl] at hfails
      cases hfails
  | some value =>
      rw [hvalue] at hfails
      refine ⟨_, value, hleaf, ?_, rfl, hfails⟩
      rintro rfl
      rw [Validator.leafVerdict_skipping_of_isNothing source rfl] at hfails
      cases hfails

theorem failure?_of_removals (hremovals : Relation.ReflTransGen checks.Removal first second)
    {site : Site (Validator ε)} (hsite : site ∈ (checks.map Validator.skipping).sites)
    {failure : Failure} (hfails : site.failure? second = some failure) :
    site.failure? first = some failure := by
  obtain ⟨rules, value, hleaf, hnull, hvalue, hverdict⟩ := exists_value_of_failure? hsite hfails
  have hpath : site.path ∈ checks.leafPaths := by
    rw [← Schema.leafPaths_map Validator.skipping]
    exact Schema.path_mem_leafPaths hsite hleaf
  have hfirst := lookup_of_removals hremovals hpath hvalue hnull
  rw [failure?_of_leaf hleaf, isShut_eq_false_of_lookup hsite hfirst, hfirst]
  exact hverdict

theorem failures_subset_of_removals
    (hremovals : Relation.ReflTransGen checks.Removal first second) :
    (checks.map Validator.skipping).failures second ⊆
      (checks.map Validator.skipping).failures first := by
  rintro ⟨path, failure⟩ hmem
  obtain ⟨site, hsite, hentry⟩ := List.mem_filterMap.mp hmem
  obtain ⟨_, hfails, hsame⟩ := Option.map_eq_some_iff.mp hentry
  cases hsame
  refine List.mem_filterMap.mpr ⟨site, hsite, ?_⟩
  rw [failure?_of_removals hremovals hsite hfails]
  rfl

/-- When every rule skips missing and null values, taking data out of an object, but nothing from
inside the value at a leaf, makes no leaf fail: those that fail afterwards failed before, in the
same way. -/
theorem removal_adds_no_failure (hchecks : checks.DistinctKeys)
    (hremovals : Relation.ReflTransGen checks.Removal first second) {report : FailureTree}
    (hreport : (validate second (checks.map Validator.skipping) false).value.value =
      some report) :
    ∃ full, (validate first (checks.map Validator.skipping) false).value.value = some full ∧
      ∀ path ∈ report.leafPaths, path ∈ full.leafPaths ∧
        ∃ failure : Failure, report.get? path = some failure.toJson ∧
          full.get? path = some failure.toJson := by
  have hschema := Schema.distinctKeys_map Validator.skipping hchecks
  have hsubset := failures_subset_of_removals hremovals
  have hsome : (validate first (checks.map Validator.skipping) false).value.value ≠ none := by
    intro hnone
    rw [validate_eq_none_iff] at hnone
    rw [hnone, List.subset_nil, ← validate_eq_none_iff, hreport] at hsubset
    cases hsubset
  obtain ⟨full, hfull⟩ := Option.ne_none_iff_exists'.mp hsome
  refine ⟨full, hfull, fun path hpath => ?_⟩
  rw [leafPaths_of_validate hschema hreport, List.mem_map] at hpath
  obtain ⟨⟨_, failure⟩, hmem, rfl⟩ := hpath
  refine ⟨?_, failure, ?_, ?_⟩
  · rw [leafPaths_of_validate hschema hfull]
    exact List.mem_map_of_mem (hsubset hmem)
  · rw [eq_of_validate_eq_some hreport]
    exact lookup_failureEntries_of_mem hschema hmem
  · rw [eq_of_validate_eq_some hfull]
    exact lookup_failureEntries_of_mem hschema (hsubset hmem)

def lateReject (polls : Nat) (code : String) (_ : Json) : Logged Unit (Answer Unit Verdict) :=
  pure (.later (.after polls (.settled [()] (some (.ofCode code)))))

theorem removal_adds_no_failure_nested :
    let checks : Schema (Json → Logged Unit (Answer Unit Verdict)) :=
      .branch "inner" (.leaf "a" (.single (lateReject 0 "a")) (.leaf "b" (.chain
        [fun _ => pure (.now none), lateReject 2 "b"]) .nil)) (.leaf "c" (.single (lateReject 1 "c"))
          .nil)
    let first : Json.Fields := [("inner", .obj [("a", .str "x"), ("b", .bool true)]),
      ("c", .arr [.null]), ("more", .arr [.obj [("c", .bool true)]])]
    let second : Json.Fields := [("inner", .obj [("a", .str "x")]), ("c", .null),
      ("more", .arr [.obj []])]
    Relation.ReflTransGen checks.Removal first second ∧
      ∃ report full, (validate second (checks.map Validator.skipping) false).value.value =
          some report ∧
        (validate first (checks.map Validator.skipping) false).value.value = some full ∧
        report.leafPaths = [["inner", "a"]] ∧
        full.leafPaths = [["inner", "a"], ["inner", "b"], ["c"]] ∧
        report.get? ["inner", "a"] = full.get? ["inner", "a"] := by
  intro checks first second
  have hchecks : checks.DistinctKeys := by decide
  have hremovals : Relation.ReflTransGen checks.Removal first second := by
    refine .tail (.tail (.single
      ⟨[.key "inner", .key "b"], by decide, .inField rfl (.key "b" _)⟩)
      ⟨[.key "c"], by decide, .inField rfl (.null _)⟩)
      ⟨[.key "more", .item 0, .key "c"], by decide, .inField rfl (.inItem rfl (.key "c" _))⟩
  obtain ⟨full, hfull, hpaths⟩ := removal_adds_no_failure hchecks hremovals rfl
  obtain ⟨-, failure, hreport, hsame⟩ := hpaths ["inner", "a"] (by decide)
  refine ⟨hremovals, _, full, rfl, hfull, rfl, ?_, hreport.trans hsame.symm⟩
  cases hfull
  rfl

end SubjectRules
