import SubjectRules.Proofs.Transformer.Output
import SubjectRules.Proofs.Validator.Report
import SubjectRules.Validator.Requirement

/-!
# Groups of rules

Rules may be combined in groups and the groups combined in the same way.  A group packs what its
rules report into one failure, and the outer combination unpacks it again, so all comes to what
one combination of the rules comes to.  Only a disjunction has to tell a group that fails from one
that passes by what it reports: there, groups must hold rules and failures must hold violations.
-/

namespace SubjectRules

variable {ε : Type}

namespace Validator

variable {groups : List (List (Validator ε))} {value : Option Json}

/-! ## What groups report -/

theorem reported_cons (rule : Validator ε) (rest : List (Validator ε)) (value : Option Json) :
    reported (rule :: rest) value =
      (rule.verdict value).toList.flatMap Failure.violations ++ reported rest value := by
  cases hverdict : rule.verdict value <;> simp [reported, hverdict]

theorem reported_append (front back : List (Validator ε)) (value : Option Json) :
    reported (front ++ back) value = reported front value ++ reported back value := by
  simp [reported]

theorem flatMap_violations_allVerdict (found : List Violation) :
    (allVerdict found).toList.flatMap Failure.violations = found := by
  cases found <;> simp [allVerdict, Failure.violations]

theorem reported_groups {combine : List (Validator ε) → Validator ε}
    (hgroups : ∀ group ∈ groups,
      (combine group).verdict value = allVerdict (reported group value)) :
    reported (groups.map combine) value = reported groups.flatten value := by
  induction groups with
  | nil => rfl
  | cons group rest ih =>
      obtain ⟨hgroup, hrest⟩ := List.forall_mem_cons.mp hgroups
      rw [List.map_cons, reported_cons, hgroup, flatMap_violations_allVerdict, ih hrest,
        List.flatten_cons, reported_append]

/-! ## Conjunctions -/

theorem findSome?_groups (groups : List (List (Validator ε))) (value : Option Json) :
    (groups.findSome? fun group => group.findSome? fun rule => rule.verdict value) =
      groups.flatten.findSome? fun rule => rule.verdict value := by
  induction groups with
  | nil => rfl
  | cons group rest ih =>
      rw [List.findSome?_cons, List.flatten_cons, List.findSome?_append, ← ih]
      cases group.findSome? fun rule => rule.verdict value <;> rfl

theorem verdict_all_groups (groups : List (List (Validator ε))) (value : Option Json)
    (abortEarly : Bool) :
    (all (groups.map fun group => all group abortEarly none) abortEarly none).verdict value =
      (all groups.flatten abortEarly none).verdict value := by
  cases abortEarly with
  | true =>
      rw [verdict_all_first, verdict_all_first, List.findSome?_map, ← findSome?_groups]
      congr 1
      funext group
      exact verdict_all_first group value
  | false =>
      have hgroups : ∀ group ∈ groups, (all group false none).verdict value =
          allVerdict (reported group value) := fun group _ => verdict_all_collecting group value
      rw [verdict_all_collecting, verdict_all_collecting, reported_groups hgroups]

/-! ## Disjunctions -/

theorem verdict_any_groups (hne : [] ∉ groups)
    (hreports : ∀ rule ∈ groups.flatten, ∀ failure, rule.verdict value = some failure →
      failure.violations ≠ []) :
    (any (groups.map fun group => any group none) none).verdict value =
      (any groups.flatten none).verdict value := by
  by_cases hpasses : ∃ rule ∈ groups.flatten, rule.verdict value = none
  · obtain ⟨rule, hrule, hpass⟩ := hpasses
    obtain ⟨group, hgroup, hmem⟩ := List.mem_flatten.mp hrule
    have hinner : (any group none).verdict value = none := verdict_any_of_pass none hmem hpass
    rw [verdict_any_of_pass none hrule hpass]
    exact verdict_any_of_pass none (List.mem_map_of_mem hgroup) hinner
  · have hfails : ∀ rule ∈ groups.flatten, rule.verdict value ≠ none := by
      intro rule hrule hpass
      exact hpasses ⟨rule, hrule, hpass⟩
    have hgroups : ∀ group ∈ groups, (any group none).verdict value =
        allVerdict (reported group value) := by
      intro group hgroup
      exact verdict_any_of_fails none fun rule hrule =>
        hfails rule (List.mem_flatten_of_mem hgroup hrule)
    -- a group reports something, so the outer disjunction does not take it for one that passes
    have houter : ∀ rule ∈ groups.map fun group => any group none,
        rule.verdict value ≠ none := by
      refine List.forall_mem_map.mpr fun group hgroup => ?_
      rw [hgroups group hgroup, ne_eq, allVerdict_eq_none_iff]
      intro hsilent
      obtain ⟨rule, hrule⟩ := List.exists_mem_of_ne_nil group fun hnil => hne (hnil ▸ hgroup)
      have hmem := List.mem_flatten_of_mem hgroup hrule
      obtain ⟨failure, hfailure⟩ := Option.ne_none_iff_exists'.mp (hfails rule hmem)
      exact hreports rule hmem failure hfailure
        (reported_eq_nil_iff.mp hsilent rule hrule failure hfailure)
    rw [verdict_any_of_fails none houter, verdict_any_of_fails none hfails,
      reported_groups hgroups]

end Validator

/-! ## Pipes -/

theorem Transformer.output_pipe_groups (groups : List (List (Transformer ε)))
    (value : Option Json) :
    (pipe (groups.map pipe)).output value = (pipe groups.flatten).output value := by
  rw [output_pipe, output_pipe, List.foldl_map, List.foldl_flatten]
  congr 1
  funext value group
  exact output_pipe group value

/-! ## All combinations -/

/-- Grouping the rules of a conjunction or the steps of a pipe changes nothing, and neither does
grouping those of a disjunction when no group is empty and no failure is. -/
theorem combinations_flatten (value : Option Json) :
    (∀ (groups : List (List (Validator ε))) (abortEarly : Bool),
      (Validator.all (groups.map fun group => Validator.all group abortEarly none) abortEarly
          none).verdict value =
        (Validator.all groups.flatten abortEarly none).verdict value) ∧
      (∀ groups : List (List (Validator ε)), [] ∉ groups →
        (∀ rule ∈ groups.flatten, ∀ failure, rule.verdict value = some failure →
          failure.violations ≠ []) →
        (Validator.any (groups.map fun group => Validator.any group none) none).verdict value =
          (Validator.any groups.flatten none).verdict value) ∧
      ∀ groups : List (List (Transformer ε)),
        (Transformer.pipe (groups.map Transformer.pipe)).output value =
          (Transformer.pipe groups.flatten).output value :=
  ⟨fun groups => Validator.verdict_all_groups groups value,
    fun _ => Validator.verdict_any_groups,
    fun groups => Transformer.output_pipe_groups groups value⟩

/-- Fails every value, after some polls. -/
def lateFailure (polls : Nat) (code : String) : Validator Unit :=
  .raw fun _ => pure (.later (.after polls (.settled [()] (some (.ofCode code)))))

theorem combinations_flatten_late :
    let groups : List (List (Validator Unit)) :=
      [[lateFailure 2 "a"], [Requirement.required.validator, lateFailure 0 "b"]]
    [] ∉ groups ∧
      (Validator.any (groups.map fun group => Validator.any group none) none).verdict none =
        (Validator.any groups.flatten none).verdict none ∧
      ((Validator.any groups.flatten none).verdict none).map Failure.codes =
        some ["a", "required", "b"] := by
  intro groups
  have hne : [] ∉ groups := by simp [groups]
  have hreports : ∀ rule ∈ groups.flatten, ∀ failure, rule.verdict none = some failure →
      failure.violations ≠ [] := by
    intro rule hrule failure hfailure
    simp only [groups, List.flatten_cons, List.flatten_nil, List.append_nil, List.cons_append,
      List.nil_append, List.mem_cons, List.not_mem_nil, or_false] at hrule
    rcases hrule with rfl | rfl | rfl
    all_goals
      cases hfailure
      exact List.cons_ne_nil _ _
  exact ⟨hne, (combinations_flatten none).2.1 groups hne hreports, rfl⟩

end SubjectRules
