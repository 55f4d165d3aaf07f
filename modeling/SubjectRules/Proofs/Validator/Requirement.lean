import SubjectRules.Proofs.Validator.Decision
import SubjectRules.Validator.Requirement

/-!
# What requirements mean

A requirement says something about values that are there.  Missing and null values meet every
requirement but the two that ask for a value.  The validator of a requirement answers at once,
decides what the requirement means and reports its one violation.
-/

namespace SubjectRules

theorem prefix_toList_iff {start s : String} :
    start.toList <+: s.toList ↔ ∃ rest, s = start ++ rest := by
  constructor
  · rintro ⟨rest, hrest⟩
    exact ⟨String.ofList rest, String.toList_injective (by simp [hrest])⟩
  · rintro ⟨rest, rfl⟩
    exact ⟨rest.toList, String.toList_append.symm⟩

theorem suffix_toList_iff {finish s : String} :
    finish.toList <:+ s.toList ↔ ∃ rest, s = rest ++ finish := by
  constructor
  · rintro ⟨rest, hrest⟩
    exact ⟨String.ofList rest, String.toList_injective (by simp [hrest])⟩
  · rintro ⟨rest, rfl⟩
    exact ⟨rest.toList, String.toList_append.symm⟩

theorem absent_or_present (value : Option Json) :
    (value = none ∨ value = some .null) ∨ ∃ present, present ≠ .null ∧ value = some present := by
  rcases value with _ | value
  · exact .inl (.inl rfl)
  · by_cases hvalue : value = .null
    · exact .inl (.inr (congrArg some hvalue))
    · exact .inr ⟨value, hvalue, rfl⟩

namespace Requirement

variable [PatternEngine] {ε : Type}

/-! ## Meaning -/

/-- What a requirement asks of a value that is there and not null. -/
def Asks (value : Json) : Requirement → Prop
  | .required | .notNull => True
  | .min bound => ∃ n, value = .num n ∧ bound.toFloat ≤ n.toFloat
  | .max bound => ∃ n, value = .num n ∧ n.toFloat ≤ bound.toFloat
  | .minLength bound =>
      (∃ s, value = .str s ∧ bound ≤ s.length) ∨ ∃ items, value = .arr items ∧ bound ≤ items.length
  | .maxLength bound =>
      (∃ s, value = .str s ∧ s.length ≤ bound) ∨ ∃ items, value = .arr items ∧ items.length ≤ bound
  | .pattern _ compiled => ∃ s, value = .str s ∧ PatternEngine.isMatch compiled s = true
  | .oneOf allowed => ∃ other ∈ allowed, other.same value = true
  | .startsWith start => ∃ rest, value = .str (start ++ rest)
  | .endsWith finish => ∃ rest, value = .str (rest ++ finish)

def Meets (value : Option Json) (requirement : Requirement) : Prop :=
  match value with
  | none | some .null => requirement ≠ .required ∧ requirement ≠ .notNull
  | some value => requirement.Asks value

theorem accepts_iff_asks (requirement : Requirement) {value : Json} (hvalue : value ≠ .null) :
    requirement.accepts value = true ↔ requirement.Asks value := by
  cases requirement with
  | required | notNull => cases value <;> simp_all [accepts, Asks, Json.isNull]
  | min | max => cases value <;> simp [accepts, Asks, Json.number?]
  | minLength | maxLength => cases value <;> simp [accepts, Asks, Json.length?]
  | pattern => cases value <;> simp [accepts, Asks, Json.string?]
  | oneOf => simp [accepts, Asks]
  | startsWith => cases value <;> simp [accepts, Asks, Json.string?, prefix_toList_iff]
  | endsWith => cases value <;> simp [accepts, Asks, Json.string?, suffix_toList_iff]

theorem meets_of_ne_null (requirement : Requirement) {value : Json} (hvalue : value ≠ .null) :
    requirement.Meets (some value) ↔ requirement.Asks value := by
  cases value with
  | null => exact absurd rfl hvalue
  | _ => rfl

/-! ## Verdicts -/

theorem verdict_eq_none_iff (requirement : Requirement) {value : Json} (hvalue : value ≠ .null) :
    requirement.verdict value = none ↔ requirement.Asks value := by
  rw [verdict, ← requirement.accepts_iff_asks hvalue]
  cases requirement.accepts value <;> simp

theorem verdict_validator_of_ne_null (requirement : Requirement) {value : Json}
    (hvalue : value ≠ .null) :
    (requirement.validator : Validator ε).verdict (some value) = requirement.verdict value := by
  cases value with
  | null => exact absurd rfl hvalue
  | _ => cases requirement <;> rfl

theorem verdict_validator_of_absent (requirement : Requirement) {value : Option Json}
    (hvalue : value = none ∨ value = some .null) :
    (requirement.validator : Validator ε).verdict value =
      match requirement with
      | .required | .notNull => some (.one requirement.violation)
      | _ => none := by
  rcases hvalue with rfl | rfl <;> cases requirement <;> rfl

theorem verdict_validator_eq_none_iff (requirement : Requirement) (value : Option Json) :
    (requirement.validator : Validator ε).verdict value = none ↔ requirement.Meets value := by
  rcases absent_or_present value with habsent | ⟨present, hpresent, rfl⟩
  · have hmeets : requirement.Meets value ↔ requirement ≠ .required ∧ requirement ≠ .notNull := by
      rcases habsent with rfl | rfl <;> rfl
    rw [hmeets, requirement.verdict_validator_of_absent habsent]
    cases requirement <;> simp
  · rw [requirement.verdict_validator_of_ne_null hpresent, requirement.verdict_eq_none_iff hpresent,
      requirement.meets_of_ne_null hpresent]

theorem eq_of_verdict {requirement : Requirement} {value : Json} {failure : Failure}
    (hfailure : requirement.verdict value = some failure) :
    failure = .one requirement.violation := by
  rw [verdict] at hfailure
  split at hfailure
  · cases hfailure
  · exact (Option.some.inj hfailure).symm

theorem eq_of_verdict_validator {requirement : Requirement} {value : Option Json}
    {failure : Failure}
    (hfailure : (requirement.validator : Validator ε).verdict value = some failure) :
    failure = .one requirement.violation := by
  rcases absent_or_present value with habsent | ⟨present, hpresent, rfl⟩
  · rw [requirement.verdict_validator_of_absent habsent] at hfailure
    cases requirement with
    | required | notNull => exact (Option.some.inj hfailure).symm
    | _ => cases hfailure
  · rw [requirement.verdict_validator_of_ne_null hpresent] at hfailure
    exact eq_of_verdict hfailure

theorem decides_validator (requirement : Requirement) (value : Option Json) :
    (requirement.validator : Validator ε).Decides value (requirement.Meets value) := by
  refine ⟨requirement.verdict_validator_eq_none_iff value, fun failure hfailure => ?_⟩
  rw [eq_of_verdict_validator hfailure]
  exact List.cons_ne_nil _ _

theorem announced_validator (defers : ε → Prop) (requirement : Requirement)
    (value : Option Json) : Answer.Announced defers (requirement.validator.check value) := by
  rcases value with _ | value
  · cases requirement <;> exact .now _
  · cases value <;> cases requirement <;> exact .now _

end Requirement

end SubjectRules
