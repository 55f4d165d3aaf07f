import SubjectRules.Proofs.Announced
import SubjectRules.Proofs.Validator.Verdict

/-!
# Validators that decide a condition

A validator decides a condition when it passes exactly the values that meet it and never
fails without a violation.  The second half is what makes a disjunction decide one: it takes
having nothing to report for a pass.  Combinations of validators that decide conditions
decide the combined condition.
-/

namespace SubjectRules

variable {ε ι : Type}

theorem Failure.violations_relabel (code : String) (failure : Failure) :
    (failure.relabel code).violations = failure.violations.map (Violation.relabel code) := by
  cases failure <;> rfl

namespace Validator

structure Decides (rule : Validator ε) (value : Option Json) (holds : Prop) : Prop where
  passes : rule.verdict value = none ↔ holds
  reports : ∀ failure, rule.verdict value = some failure → failure.violations ≠ []

theorem foldUntil_allStep (override : Option Failure) (verdicts : List Verdict) :
    Reducer.foldUntil (allStep true override) allVerdict [] verdicts =
      (verdicts.findSome? id).map fun failure => override.getD failure := by
  induction verdicts with
  | nil => rfl
  | cons verdict rest ih =>
      cases verdict with
      | none => exact ih
      | some failure => rfl

theorem foldUntil_anyStep (override : Option Failure) (verdicts : List Verdict)
    (found : List Violation) :
    Reducer.foldUntil anyStep (anyVerdict override) found verdicts =
      if verdicts.all Option.isSome then
        anyVerdict override (found ++ (verdicts.filterMap id).flatMap Failure.violations)
      else none := by
  induction verdicts generalizing found with
  | nil => simp [Reducer.foldUntil]
  | cons verdict rest ih =>
      cases verdict with
      | none => rfl
      | some failure =>
          simp [Reducer.foldUntil, anyStep, ih]

variable {items : List ι} {validator : ι → Validator ε} {holds : ι → Prop}
  {value : Option Json}

theorem decides_all {override : Option Failure}
    (hoverride : ∀ failure, override = some failure → failure.violations ≠ [])
    (hitems : ∀ item ∈ items, (validator item).Decides value (holds item)) :
    (all (items.map validator) true override).Decides value (∀ item ∈ items, holds item) := by
  have hverdict : (all (items.map validator) true override).verdict value =
      (items.findSome? fun item => (validator item).verdict value).map
        fun failure => override.getD failure := by
    rw [verdict_all, foldUntil_allStep, List.map_map, List.findSome?_map]
    rfl
  constructor
  · rw [hverdict, Option.map_eq_none_iff, List.findSome?_eq_none_iff]
    exact forall₂_congr fun item hitem => (hitems item hitem).passes
  · intro failure hfailure
    rw [hverdict, Option.map_eq_some_iff] at hfailure
    obtain ⟨first, hfirst, rfl⟩ := hfailure
    cases override with
    | some failure => exact hoverride failure rfl
    | none =>
        obtain ⟨item, hitem, hreported⟩ := List.exists_of_findSome?_eq_some hfirst
        exact (hitems item hitem).reports first hreported

theorem verdict_any_of_pass {rules : List (Validator ε)} {rule : Validator ε}
    (override : Option Failure) (hrule : rule ∈ rules) (hpass : rule.verdict value = none) :
    (any rules override).verdict value = none := by
  have hall : ((rules.map fun rule => rule.verdict value).all Option.isSome) = false := by
    rw [List.all_map]
    exact List.all_eq_false.mpr ⟨rule, hrule, by simp [hpass]⟩
  rw [verdict_any, foldUntil_anyStep, hall]
  rfl

def reported (rules : List (Validator ε)) (value : Option Json) : List Violation :=
  (rules.filterMap fun rule => rule.verdict value).flatMap Failure.violations

theorem reported_eq_nil_iff {rules : List (Validator ε)} :
    reported rules value = [] ↔ ∀ rule ∈ rules, ∀ failure,
      rule.verdict value = some failure → failure.violations = [] := by
  simp only [reported, List.flatMap_eq_nil_iff, List.mem_filterMap]
  constructor
  · intro hsilent rule hrule failure hfailure
    exact hsilent failure ⟨rule, hrule, hfailure⟩
  · rintro hsilent failure ⟨rule, hrule, hfailure⟩
    exact hsilent rule hrule failure hfailure

theorem verdict_any_of_fails {rules : List (Validator ε)} (override : Option Failure)
    (hfails : ∀ rule ∈ rules, rule.verdict value ≠ none) :
    (any rules override).verdict value = anyVerdict override (reported rules value) := by
  have hall : ((rules.map fun rule => rule.verdict value).all Option.isSome) = true := by
    rw [List.all_map, List.all_eq_true]
    exact fun rule hrule => Option.isSome_iff_ne_none.mpr (hfails rule hrule)
  rw [verdict_any, foldUntil_anyStep, if_pos hall, List.nil_append, List.filterMap_map]
  rfl

theorem verdict_any_of_fail {rules : List (Validator ε)} (override : Option Failure)
    (hne : rules ≠ [])
    (hfails : ∀ rule ∈ rules, ∃ failure, rule.verdict value = some failure ∧
      failure.violations ≠ []) :
    ∃ found ≠ [], (any rules override).verdict value = some (override.getD (.many found)) := by
  have hnone : ∀ rule ∈ rules, rule.verdict value ≠ none := by
    intro rule hrule
    obtain ⟨failure, hfailure, -⟩ := hfails rule hrule
    rw [hfailure]
    exact Option.some_ne_none failure
  have hfound : reported rules value ≠ [] := by
    intro hnil
    obtain ⟨rule, hrule⟩ := List.exists_mem_of_ne_nil rules hne
    obtain ⟨failure, hfailure, hreports⟩ := hfails rule hrule
    exact hreports (reported_eq_nil_iff.mp hnil rule hrule failure hfailure)
  refine ⟨_, hfound, ?_⟩
  rw [verdict_any_of_fails override hnone, anyVerdict, if_neg (by simpa using hfound)]

/-- A disjunction passes everything when it has no parts. -/
theorem decides_any (hne : items ≠ []) {override : Option Failure}
    (hoverride : ∀ failure, override = some failure → failure.violations ≠ [])
    (hitems : ∀ item ∈ items, (validator item).Decides value (holds item)) :
    (any (items.map validator) override).Decides value (∃ item ∈ items, holds item) := by
  by_cases hany : ∃ item ∈ items, holds item
  · obtain ⟨item, hitem, hholds⟩ := hany
    have hpass := (hitems item hitem).passes.mpr hholds
    have hverdict := verdict_any_of_pass override (List.mem_map_of_mem hitem) hpass
    exact ⟨iff_of_true hverdict ⟨item, hitem, hholds⟩, by simp [hverdict]⟩
  · have hfails : ∀ rule ∈ items.map validator, ∃ failure,
        rule.verdict value = some failure ∧ failure.violations ≠ [] := by
      refine List.forall_mem_map.mpr fun item hitem => ?_
      have hpass : (validator item).verdict value ≠ none := fun hpass =>
        hany ⟨item, hitem, (hitems item hitem).passes.mp hpass⟩
      obtain ⟨failure, hfailure⟩ := Option.ne_none_iff_exists'.mp hpass
      exact ⟨failure, hfailure, (hitems item hitem).reports failure hfailure⟩
    obtain ⟨found, hfound, hverdict⟩ :=
      verdict_any_of_fail override (List.map_eq_nil_iff.not.mpr hne) hfails
    refine ⟨iff_of_false (by simp [hverdict]) hany, ?_⟩
    intro failure hfailure
    rw [hverdict, Option.some.injEq] at hfailure
    cases override with
    | some override => exact hoverride failure (congrArg some hfailure)
    | none =>
        cases hfailure
        exact hfound

theorem eq_of_verdict_all {rules : List (Validator ε)} {override failure : Failure}
    (hfailure : (all rules true (some override)).verdict value = some failure) :
    failure = override := by
  rw [verdict_all, foldUntil_allStep, Option.map_eq_some_iff] at hfailure
  obtain ⟨_, -, rfl⟩ := hfailure
  rfl

theorem eq_of_verdict_any {rules : List (Validator ε)} {override failure : Failure}
    (hfailure : (any rules (some override)).verdict value = some failure) :
    failure = override := by
  rw [verdict_any, foldUntil_anyStep, anyVerdict] at hfailure
  split at hfailure
  · split at hfailure
    · cases hfailure
    · exact (Option.some.inj hfailure).symm
  · cases hfailure

theorem decides_negate {rule : Validator ε} {failure : Failure} {holds : Prop}
    (hfailure : failure.violations ≠ []) (hrule : rule.Decides value holds) :
    (rule.negate failure).Decides value (¬ holds) := by
  have hverdict := verdict_negate rule failure value
  cases hrules : rule.verdict value with
  | none =>
      rw [hrules] at hverdict
      refine ⟨iff_of_false (by simp [hverdict]) (not_not_intro (hrule.passes.mp hrules)), ?_⟩
      intro reported hreported
      cases hverdict.symm.trans hreported
      exact hfailure
  | some reported =>
      have hholds : ¬ holds := by
        rw [← hrule.passes, hrules]
        exact Option.some_ne_none reported
      rw [hrules] at hverdict
      exact ⟨iff_of_true hverdict hholds, by simp [hverdict]⟩

theorem decides_relabel {rule : Validator ε} {holds : Prop} (code : String)
    (hrule : rule.Decides value holds) : (rule.relabel code).Decides value holds := by
  constructor
  · rw [verdict_relabel, Option.map_eq_none_iff]
    exact hrule.passes
  · intro failure hfailure
    rw [verdict_relabel, Option.map_eq_some_iff] at hfailure
    obtain ⟨reported, hreported, rfl⟩ := hfailure
    rw [Failure.violations_relabel, ne_eq, List.map_eq_nil_iff]
    exact hrule.reports reported hreported

end Validator

end SubjectRules
