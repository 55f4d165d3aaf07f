import SubjectRules.Proofs.Validator.Decision

/-!
# Combinations as connectives

A conjunction that ends at its first failure passes just when every rule does.  One that
collects violations looks only at what it has collected, and so does a disjunction: there, a
rule that fails without a violation is taken for one that passes.  Both are the Boolean
connectives as long as every failure holds a violation.
-/

namespace SubjectRules.Validator

variable {ε : Type} {rules : List (Validator ε)} {value : Option Json}

theorem reported_eq_nil_of_passes (hpasses : ∀ rule ∈ rules, rule.verdict value = none) :
    reported rules value = [] := by
  rw [reported_eq_nil_iff]
  intro rule hrule failure hfailure
  rw [hpasses rule hrule] at hfailure
  cases hfailure

/-! ## Conjunctions -/

theorem allStep_of_override (abortEarly : Bool) (override : Failure) :
    allStep abortEarly (some override) = allStep true (some override) := by
  funext found verdict
  cases verdict with
  | none => rfl
  | some failure => cases abortEarly <;> rfl

theorem verdict_all_of_ends {abortEarly : Bool} {override : Option Failure}
    (hends : ¬ (abortEarly = false ∧ override = none)) :
    (all rules abortEarly override).verdict value =
      (rules.findSome? fun rule => rule.verdict value).map fun failure =>
        override.getD failure := by
  have hstep : allStep abortEarly override = allStep true override := by
    cases override with
    | some override => exact allStep_of_override abortEarly override
    | none =>
        have hearly : abortEarly = true := by simpa using hends
        rw [hearly]
  rw [verdict_all, hstep, foldUntil_allStep, List.findSome?_map]
  rfl

theorem foldUntil_allStep_collecting (found : List Violation) (verdicts : List Verdict) :
    Reducer.foldUntil (allStep false none) allVerdict found verdicts =
      allVerdict (found ++ (verdicts.filterMap id).flatMap Failure.violations) := by
  induction verdicts generalizing found with
  | nil => simp [Reducer.foldUntil]
  | cons verdict rest ih =>
      cases verdict with
      | none => exact ih found
      | some failure => simp [Reducer.foldUntil, allStep, ih]

theorem verdict_all_collecting (rules : List (Validator ε)) (value : Option Json) :
    (all rules false none).verdict value = allVerdict (reported rules value) := by
  rw [verdict_all, foldUntil_allStep_collecting, List.nil_append, List.filterMap_map]
  rfl

theorem allVerdict_eq_none_iff {found : List Violation} : allVerdict found = none ↔ found = [] := by
  cases found <;> simp [allVerdict]

theorem verdict_all_eq_none_iff {abortEarly : Bool} {override : Option Failure} :
    (all rules abortEarly override).verdict value = none ↔
      (∀ rule ∈ rules, rule.verdict value = none) ∨
        (abortEarly = false ∧ override = none ∧ reported rules value = []) := by
  by_cases hcollects : abortEarly = false ∧ override = none
  · obtain ⟨rfl, rfl⟩ := hcollects
    rw [verdict_all_collecting, allVerdict_eq_none_iff]
    constructor
    · intro hsilent
      exact .inr ⟨rfl, rfl, hsilent⟩
    · rintro (hpasses | ⟨-, -, hsilent⟩)
      · exact reported_eq_nil_of_passes hpasses
      · exact hsilent
  · rw [verdict_all_of_ends hcollects, Option.map_eq_none_iff, List.findSome?_eq_none_iff]
    constructor
    · exact .inl
    · rintro (hpasses | ⟨hfull, hnone, -⟩)
      · exact hpasses
      · exact absurd ⟨hfull, hnone⟩ hcollects

/-! ## Disjunctions -/

theorem anyVerdict_eq_none_iff {override : Option Failure} {found : List Violation} :
    anyVerdict override found = none ↔ found = [] := by
  cases found <;> simp [anyVerdict]

theorem verdict_any_eq_none_iff {override : Option Failure} :
    (any rules override).verdict value = none ↔
      (∃ rule ∈ rules, rule.verdict value = none) ∨ reported rules value = [] := by
  by_cases hpasses : ∃ rule ∈ rules, rule.verdict value = none
  · obtain ⟨rule, hrule, hpass⟩ := hpasses
    exact iff_of_true (verdict_any_of_pass override hrule hpass) (.inl ⟨rule, hrule, hpass⟩)
  · have hfails : ∀ rule ∈ rules, rule.verdict value ≠ none := fun rule hrule hpass =>
      hpasses ⟨rule, hrule, hpass⟩
    rw [verdict_any_of_fails override hfails, anyVerdict_eq_none_iff]
    exact ⟨.inr, fun h => h.resolve_left hpasses⟩

/-! ## Both -/

/-- A conjunction passes when every rule passes, and besides only when it collects violations
and no failing rule has any.  A disjunction passes when some rule passes, and besides only when
no failing rule has a violation. -/
theorem combinations_pass_iff (rules : List (Validator ε)) (value : Option Json)
    (abortEarly : Bool) (override : Option Failure) :
    ((all rules abortEarly override).verdict value = none ↔
        (∀ rule ∈ rules, rule.verdict value = none) ∨
          (abortEarly = false ∧ override = none ∧ ∀ rule ∈ rules, ∀ failure,
            rule.verdict value = some failure → failure.violations = [])) ∧
      ((any rules override).verdict value = none ↔
        (∃ rule ∈ rules, rule.verdict value = none) ∨
          ∀ rule ∈ rules, ∀ failure,
            rule.verdict value = some failure → failure.violations = []) := by
  rw [← reported_eq_nil_iff]
  exact ⟨verdict_all_eq_none_iff, verdict_any_eq_none_iff⟩

/-- Fails every value without a violation. -/
def silentRule : Validator Unit := .raw fun _ => pure (.now (some (.many [])))

/-- A rule that fails without a violation passes a conjunction that collects violations, though
not one that ends early, and passes a disjunction even with an override. -/
theorem not_combinations_boolean :
    (¬ ∀ (rules : List (Validator Unit)) (value : Option Json) (abortEarly : Bool)
        (override : Option Failure), (all rules abortEarly override).verdict value = none ↔
          ∀ rule ∈ rules, rule.verdict value = none) ∧
      (¬ ∀ (rules : List (Validator Unit)) (value : Option Json),
        (all rules true none).verdict value = none ↔ (all rules false none).verdict value = none) ∧
      ¬ ∀ (rules : List (Validator Unit)) (value : Option Json) (override : Option Failure),
        rules ≠ [] → ((any rules override).verdict value = none ↔
          ∃ rule ∈ rules, rule.verdict value = none) := by
  have hfails : silentRule.verdict (some .null) ≠ none := Option.some_ne_none _
  refine ⟨fun hclaim => ?_, fun hclaim => ?_, fun hclaim => ?_⟩
  · have hpasses := (hclaim [silentRule] (some .null) false none).mp rfl
    exact hfails (hpasses silentRule List.mem_cons_self)
  · have hearly := (hclaim [silentRule] (some .null)).mpr rfl
    exact Option.some_ne_none _ hearly
  · have hpasses := (hclaim [silentRule] (some .null) (some (.ofCode "none-matched"))
      (List.cons_ne_nil _ _)).mp rfl
    obtain ⟨rule, hrule, hpass⟩ := hpasses
    rw [List.mem_singleton.mp hrule] at hpass
    exact hfails hpass

end SubjectRules.Validator
