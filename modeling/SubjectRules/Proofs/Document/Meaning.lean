import SubjectRules.Proofs.Document.Spelling
import SubjectRules.Proofs.Validator.Requirement

/-!
# What compiled checks mean

A check that is read from a rule has a validator that decides the Boolean meaning of what the
rule spells.  It answers at once, reports at least one violation whenever it fails, and
reports nothing but the code of the rule when the rule has one.
-/

namespace SubjectRules.Check

variable {ε : Type}

theorem violations_ne_nil_of_map_ofCode {code : Option String} {failure : Failure}
    (hfailure : code.map Failure.ofCode = some failure) : failure.violations ≠ [] := by
  obtain ⟨code, -, rfl⟩ := Option.map_eq_some_iff.mp hfailure
  exact List.cons_ne_nil _ _

section

variable [PatternEngine]

@[elab_as_elim]
theorem ind {motive : Check → Prop} (basic : ∀ requirement code, motive (.basic requirement code))
    (allOf : ∀ parts code, (∀ part ∈ parts, motive part) → motive (.allOf parts code))
    (anyOf : ∀ parts code, (∀ part ∈ parts, motive part) → motive (.anyOf parts code))
    (negation : ∀ part code, motive part → motive (.negation part code)) (check : Check) :
    motive check := by
  refine check.rec (motive_2 := fun parts => ∀ part ∈ parts, motive part)
    basic allOf anyOf negation ?_ ?_
  · exact List.forall_mem_nil motive
  · intro head tail ihHead ihTail
    exact List.forall_mem_cons.mpr ⟨ihHead, ihTail⟩

theorem validators_eq_map (parts : List Check) :
    (validators parts : List (Validator ε)) = parts.map validator := by
  induction parts with
  | nil => rfl
  | cons part rest ih => rw [validators, ih, List.map_cons]

/-! ## Meaning -/

mutual

/-- The Boolean meaning of a check, in which codes play no part. -/
def Holds (value : Option Json) : Check → Prop
  | .basic requirement _ => requirement.Meets value
  | .allOf parts _ => AllHold value parts
  | .anyOf parts _ => AnyHolds value parts
  | .negation part _ => ¬ Holds value part

def AllHold (value : Option Json) : List Check → Prop
  | [] => True
  | part :: rest => Holds value part ∧ AllHold value rest

def AnyHolds (value : Option Json) : List Check → Prop
  | [] => False
  | part :: rest => Holds value part ∨ AnyHolds value rest

end

theorem allHold_iff {value : Option Json} {parts : List Check} :
    AllHold value parts ↔ ∀ part ∈ parts, Holds value part := by
  induction parts with
  | nil => simp [AllHold]
  | cons part rest ih => rw [AllHold, ih, List.forall_mem_cons]

theorem anyHolds_iff {value : Option Json} {parts : List Check} :
    AnyHolds value parts ↔ ∃ part ∈ parts, Holds value part := by
  induction parts with
  | nil => simp [AnyHolds]
  | cons part rest ih => rw [AnyHolds, ih, List.exists_mem_cons_iff]

/-! ## Answers -/

theorem announced_validator (defers : ε → Prop) (check : Check) (value : Option Json) :
    Answer.Announced defers ((validator check).check value) := by
  induction check using ind generalizing value with
  | basic requirement code =>
      have hrequirement := requirement.announced_validator defers
      cases code with
      | none => exact hrequirement value
      | some code => exact Validator.announced_relabel code hrequirement value
  | allOf parts code ih =>
      rw [validator, validators_eq_map]
      exact Validator.announced_all true _ (List.forall_mem_map.mpr ih) value
  | anyOf parts code ih =>
      rw [validator, validators_eq_map]
      exact Validator.announced_any _ (List.forall_mem_map.mpr ih) value
  | negation part code ih => exact Validator.announced_negate _ ih value

/-! ## Codes -/

def code : Check → Option String
  | .basic _ code | .allOf _ code | .anyOf _ code | .negation _ code => code

theorem forall_code_eq_of_code {check : Check} {own : String} (hown : check.code = some own)
    {value : Option Json} {failure : Failure}
    (hfailure : (validator check : Validator ε).verdict value = some failure) :
    ∀ violation ∈ failure.violations, violation.code = own := by
  have hofCode : ∀ violation ∈ (Failure.ofCode own).violations, violation.code = own :=
    List.forall_mem_singleton.mpr rfl
  cases check with
  | basic requirement code =>
      obtain rfl : code = some own := hown
      rw [validator, basicValidator, Validator.verdict_relabel,
        Option.map_eq_some_iff] at hfailure
      obtain ⟨reported, -, rfl⟩ := hfailure
      rw [Failure.violations_relabel, List.forall_mem_map]
      exact fun _ _ => rfl
  | allOf parts code =>
      obtain rfl : code = some own := hown
      rw [Validator.eq_of_verdict_all hfailure]
      exact hofCode
  | anyOf parts code =>
      obtain rfl : code = some own := hown
      rw [Validator.eq_of_verdict_any hfailure]
      exact hofCode
  | negation part code =>
      obtain rfl : code = some own := hown
      rw [validator, Validator.verdict_negate] at hfailure
      split at hfailure
      · cases hfailure
      · cases hfailure
        exact hofCode

/-! ## Verdicts -/

variable [Yaml.JsonForm]

theorem exists_spelled_of_forall₂ {items : List Yaml} {parts : List Check}
    (hspelled : List.Forall₂ SpelledBy items parts) {part : Check} (hpart : part ∈ parts) :
    ∃ arguments name, Spelled arguments name part := by
  induction hspelled with
  | nil => cases hpart
  | cons hfirst _ ih =>
      rcases List.mem_cons.mp hpart with rfl | hrest
      · obtain ⟨-, hspelled⟩ := hfirst
        exact ⟨_, _, hspelled⟩
      · exact ih hrest

theorem decides_validator {check : Check} {arguments : Yaml.Mapping} {name : String}
    (hspelled : Spelled arguments name check) (value : Option Json) :
    (validator check : Validator ε).Decides value (Holds value check) := by
  induction check using ind generalizing arguments name with
  | basic requirement code =>
      have hrequirement := requirement.decides_validator (ε := ε) value
      cases code with
      | none => exact hrequirement
      | some code => exact Validator.decides_relabel code hrequirement
  | allOf parts code ih =>
      cases hspelled with
      | allOf _ _ hparts _ =>
          rw [validator, validators_eq_map, Holds, allHold_iff]
          refine Validator.decides_all (fun _ => violations_ne_nil_of_map_ofCode) ?_
          intro part hpart
          obtain ⟨_, _, hspelled⟩ := exists_spelled_of_forall₂ hparts hpart
          exact ih part hpart hspelled
  | anyOf parts code ih =>
      cases hspelled with
      | anyOf _ hne hparts _ =>
          -- Without parts the validator would pass what the meaning rejects.
          have hsome : parts ≠ [] := by
            rintro rfl
            exact hne (List.forall₂_nil_right_iff.mp hparts)
          rw [validator, validators_eq_map, Holds, anyHolds_iff]
          refine Validator.decides_any hsome (fun _ => violations_ne_nil_of_map_ofCode) ?_
          intro part hpart
          obtain ⟨_, _, hspelled⟩ := exists_spelled_of_forall₂ hparts hpart
          exact ih part hpart hspelled
  | negation part code ih =>
      cases hspelled with
      | negation _ _ hpart _ =>
          obtain ⟨-, hspelled⟩ := hpart
          exact Validator.decides_negate (List.cons_ne_nil _ _) (ih hspelled)

theorem hasCode_of_spelled {check : Check} {arguments : Yaml.Mapping} {name : String}
    (hspelled : Spelled arguments name check) : arguments.HasCode check.code := by
  cases hspelled <;> assumption

/-! ## Checks of calls -/

/-- What a rule is read as is what it spells, and its validator answers at once with the Boolean
meaning.  Every failure holds a violation, and only the rule's own code when it has one. -/
theorem build_decides {call : RuleCall} {check : Check} (hcheck : build call = .ok check)
    (value : Option Json) :
    Spelled call.arguments call.name check ∧
      ∃ verdict, ((validator check : Validator ε).check value).value = .now verdict ∧
        (verdict = none ↔ Holds value check) ∧
        ∀ failure, verdict = some failure → failure.violations ≠ [] ∧
          ∀ own, call.arguments.HasText "code" own →
            ∀ violation ∈ failure.violations, violation.code = own := by
  have hspelled := build_eq_ok_iff.mp hcheck
  have hdecides := decides_validator (ε := ε) hspelled value
  have hannounced := announced_validator (fun _ : ε => False) check value
  obtain ⟨verdict, hnow⟩ := Answer.eq_now_of_isNow (hannounced.isNow fun _ _ => id)
  have hverdict : (validator check : Validator ε).verdict value = verdict := by
    rw [Validator.verdict, hnow, Answer.value_now]
  refine ⟨hspelled, verdict, hnow, hverdict ▸ hdecides.passes, ?_⟩
  intro failure hfailure
  have hfailure := hverdict.trans hfailure
  refine ⟨hdecides.reports failure hfailure, ?_⟩
  intro own hown
  exact forall_code_eq_of_code ((hasCode_of_spelled hspelled).eq_some hown) hfailure

end

/-- A disjunction with a code of its own, of a bound and of a negation, beside a value that
meets neither. -/
theorem build_decides_nested :
    let call : RuleCall :=
      { name := "any_of"
        arguments :=
          [(.str "rule", .str "any_of"), (.str "code", .str "short"),
            (.str "of", .seq
              [.map [(.str "rule", .str "min_length"), (.str "value", .num (.int 3))],
                .map [(.str "rule", .str "not"), (.str "of", .str "required")]])]
        place := ⟨["validate", "name"], []⟩ }
    let check := .anyOf [.basic (.minLength 3) none, .negation (.basic .required none) none]
      (some "short")
    build call = .ok check ∧ ¬ Holds (some (.str "ab")) check ∧
      Spelled call.arguments call.name check ∧
        ∃ verdict, ((validator check : Validator Empty).check (some (.str "ab"))).value =
            .now verdict ∧
          (verdict = none ↔ Holds (some (.str "ab")) check) ∧
          ∀ failure, verdict = some failure → failure.violations ≠ [] ∧
            ∀ own, call.arguments.HasText "code" own →
              ∀ violation ∈ failure.violations, violation.code = own := by
  intro call check
  have hlength : "ab".length < 3 := by decide
  have hshort : ¬ Holds (some (.str "ab")) check := by
    simpa [check, Holds, AnyHolds, Requirement.Meets, Requirement.Asks] using hlength
  exact ⟨rfl, hshort, build_decides rfl (some (.str "ab"))⟩

end SubjectRules.Check
