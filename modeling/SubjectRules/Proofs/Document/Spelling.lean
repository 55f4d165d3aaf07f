import Mathlib.Data.List.Forall2
import SubjectRules.Proofs.Document.Arguments

/-!
# How rules are spelled

The relations here say which conversion, requirement or check a name spells with its
arguments.  Reading a rule gives what it spells, and fails only when it spells nothing.
-/

namespace SubjectRules

/-! ## Conversions and requirements -/

namespace Conversion

variable [Yaml.JsonForm]

inductive Spelled (arguments : Yaml.Mapping) : String → Conversion → Prop
  | trim : Spelled arguments "trim" .trim
  | lowercase : Spelled arguments "lowercase" .lowercase
  | uppercase : Spelled arguments "uppercase" .uppercase
  | collapseWhitespace : Spelled arguments "collapse_whitespace" .collapseWhitespace
  | fallback {value : Json} :
      arguments.HasJson "value" value → Spelled arguments "default" (.fallback value)

inductive SpelledBy (value : Yaml) (conversion : Conversion) : Prop
  | intro {name : String} {arguments : Yaml.Mapping} :
      value.Calls name arguments → Spelled arguments name conversion → SpelledBy value conversion

theorem ofCall_eq_ok_iff {call : RuleCall} {conversion : Conversion} :
    ofCall call = .ok conversion ↔ Spelled call.arguments call.name conversion := by
  obtain ⟨name, arguments, place⟩ := call
  constructor
  · intro hcall
    simp only [ofCall] at hcall
    split at hcall
    case h_5 =>
        obtain ⟨value, hvalue, rfl⟩ := Except.bind_pure_eq_ok_iff.mp hcall
        exact .fallback (RuleCall.json_eq_ok_iff.mp hvalue)
    case h_6 => cases hcall
    all_goals
      cases hcall
      constructor
  · intro hspelled
    cases hspelled with
    | fallback hvalue =>
        exact Except.bind_pure_eq_ok_iff.mpr ⟨_, RuleCall.json_eq_ok_iff.mpr hvalue, rfl⟩
    | _ => rfl

theorem ofYaml_eq_ok_iff {place : Place} {value : Yaml} {conversion : Conversion} :
    ofYaml place value = .ok conversion ↔ SpelledBy value conversion := by
  rw [ofYaml, Except.bind_eq_ok_iff]
  constructor
  · rintro ⟨call, hcall, hconversion⟩
    exact ⟨(RuleCall.ofYaml_eq_ok_iff.mp hcall).1, ofCall_eq_ok_iff.mp hconversion⟩
  · rintro ⟨hcalls, hspelled⟩
    exact ⟨⟨_, _, place⟩, RuleCall.ofYaml_eq_ok_iff.mpr ⟨hcalls, rfl⟩,
      ofCall_eq_ok_iff.mpr hspelled⟩

end Conversion

namespace Requirement

variable [PatternEngine] [Yaml.JsonForm]

inductive Spelled (arguments : Yaml.Mapping) : String → Requirement → Prop
  | required : Spelled arguments "required" .required
  | notNull : Spelled arguments "not_null" .notNull
  | min {bound : Json.Number} :
      arguments.HasJson "value" (.num bound) → Spelled arguments "min" (.min bound)
  | max {bound : Json.Number} :
      arguments.HasJson "value" (.num bound) → Spelled arguments "max" (.max bound)
  | minLength {bound : Nat} :
      arguments.HasCount "value" bound → Spelled arguments "min_length" (.minLength bound)
  | maxLength {bound : Nat} :
      arguments.HasCount "value" bound → Spelled arguments "max_length" (.maxLength bound)
  | pattern {source : String} {compiled : PatternEngine.Compiled} :
      arguments.HasText "value" source → PatternEngine.compile source = some compiled →
        Spelled arguments "pattern" (.pattern source compiled)
  | oneOf {allowed : List Json} :
      arguments.HasJson "values" (.arr allowed) → Spelled arguments "one_of" (.oneOf allowed)
  | startsWith {start : String} :
      arguments.HasText "value" start → Spelled arguments "starts_with" (.startsWith start)
  | endsWith {finish : String} :
      arguments.HasText "value" finish → Spelled arguments "ends_with" (.endsWith finish)

theorem spelled_of_ofCall {call : RuleCall} {requirement : Requirement}
    (hcall : ofCall call = .ok requirement) :
    Spelled call.arguments call.name requirement := by
  obtain ⟨name, arguments, place⟩ := call
  simp only [ofCall] at hcall
  split at hcall
  case h_3 =>
      obtain ⟨bound, hbound, rfl⟩ := Except.bind_pure_eq_ok_iff.mp hcall
      exact .min (RuleCall.number_eq_ok_iff.mp hbound)
  case h_4 =>
      obtain ⟨bound, hbound, rfl⟩ := Except.bind_pure_eq_ok_iff.mp hcall
      exact .max (RuleCall.number_eq_ok_iff.mp hbound)
  case h_5 =>
      obtain ⟨bound, hbound, rfl⟩ := Except.bind_pure_eq_ok_iff.mp hcall
      exact .minLength (RuleCall.count_eq_ok_iff.mp hbound)
  case h_6 =>
      obtain ⟨bound, hbound, rfl⟩ := Except.bind_pure_eq_ok_iff.mp hcall
      exact .maxLength (RuleCall.count_eq_ok_iff.mp hbound)
  case h_7 =>
      obtain ⟨source, hsource, hread⟩ := Except.bind_eq_ok_iff.mp hcall
      cases hcompiled : PatternEngine.compile source with
      | none => simp [hcompiled, throw, throwThe, MonadExceptOf.throw] at hread
      | some compiled =>
          simp only [hcompiled] at hread
          cases hread
          exact .pattern (RuleCall.text_eq_ok_iff.mp hsource) hcompiled
  case h_8 =>
      obtain ⟨allowed, hallowed, rfl⟩ := Except.bind_pure_eq_ok_iff.mp hcall
      exact .oneOf (RuleCall.items_eq_ok_iff.mp hallowed)
  case h_9 =>
      obtain ⟨start, hstart, rfl⟩ := Except.bind_pure_eq_ok_iff.mp hcall
      exact .startsWith (RuleCall.text_eq_ok_iff.mp hstart)
  case h_10 =>
      obtain ⟨finish, hfinish, rfl⟩ := Except.bind_pure_eq_ok_iff.mp hcall
      exact .endsWith (RuleCall.text_eq_ok_iff.mp hfinish)
  case h_11 => cases hcall
  all_goals
    cases hcall
    constructor

theorem ofCall_eq_ok_iff {call : RuleCall} {requirement : Requirement} :
    ofCall call = .ok requirement ↔ Spelled call.arguments call.name requirement := by
  refine ⟨spelled_of_ofCall, ?_⟩
  obtain ⟨name, arguments, place⟩ := call
  intro hspelled
  cases hspelled with
  | required | notNull => rfl
  | min hbound | max hbound =>
      exact Except.bind_pure_eq_ok_iff.mpr ⟨_, RuleCall.number_eq_ok_iff.mpr hbound, rfl⟩
  | minLength hbound | maxLength hbound =>
      exact Except.bind_pure_eq_ok_iff.mpr ⟨_, RuleCall.count_eq_ok_iff.mpr hbound, rfl⟩
  | pattern hsource hcompiled =>
      refine Except.bind_eq_ok_iff.mpr ⟨_, RuleCall.text_eq_ok_iff.mpr hsource, ?_⟩
      rw [hcompiled]
      rfl
  | oneOf hallowed =>
      exact Except.bind_pure_eq_ok_iff.mpr ⟨_, RuleCall.items_eq_ok_iff.mpr hallowed, rfl⟩
  | startsWith htext | endsWith htext =>
      exact Except.bind_pure_eq_ok_iff.mpr ⟨_, RuleCall.text_eq_ok_iff.mpr htext, rfl⟩

end Requirement

/-! ## Checks -/

namespace Yaml

/-- Induction with the hypothesis for the rules that a rule holds under `of`. -/
@[elab_as_elim]
theorem partsInduction {motive : Yaml → Prop}
    (step : ∀ value, (∀ name arguments, value.Calls name arguments →
      ∀ written, arguments.get? "of" = some written → ∀ item ∈ written.parts, motive item) →
        motive value) (value : Yaml) : motive value := by
  -- The items of a sequence are parts of the mapping around it, not of the sequence itself.
  suffices h : motive value ∧ ∀ item ∈ value.parts, motive item from h.1
  have hlone : ∀ value : Yaml, value.parts = [value] → motive value →
      motive value ∧ ∀ item ∈ value.parts, motive item := by
    intro value hparts hvalue
    rw [hparts, List.forall_mem_singleton]
    exact ⟨hvalue, hvalue⟩
  have hplain : ∀ value : Yaml, (∀ entries, value ≠ .map entries) → motive value := by
    intro value hvalue
    refine step value ?_
    intro name arguments hcalls written hwritten
    cases hcalls with
    | alone => cases hwritten
    | mapped => exact absurd rfl (hvalue arguments)
  induction value using ind with
  | seq items ih => exact ⟨hplain (.seq items) (by simp), fun item hitem => (ih item hitem).1⟩
  | map entries ih =>
      refine hlone (.map entries) rfl (step (.map entries) ?_)
      intro name arguments hcalls written hwritten
      cases hcalls with
      | mapped => exact (ih _ (Mapping.mem_of_get? hwritten)).2
  | _ => exact hlone _ rfl (hplain _ (by simp))

end Yaml

namespace Check

def Combination.name : Combination → String
  | .allOf => "all_of"
  | .anyOf => "any_of"
  | .negation => "not"

theorem Combination.ofName?_eq_some_iff {name : String} {combination : Combination} :
    ofName? name = some combination ↔ name = combination.name := by
  cases combination <;> grind [ofName?, Combination.name]

variable [PatternEngine]

theorem combine_negation_eq_ok_iff {call : RuleCall} {code : Option String}
    {parts : List Check} {check : Check} :
    combine call code parts .negation = .ok check ↔
      ∃ part, parts = [part] ∧ .negation part code = check := by
  match parts with
  | [] | _ :: _ :: _ => simp [combine]
  | [part] => simp [combine]

variable [Yaml.JsonForm]

mutual

inductive Spelled : Yaml.Mapping → String → Check → Prop
  | basic {arguments : Yaml.Mapping} {name : String} {requirement : Requirement}
      {code : Option String} :
      Requirement.Spelled arguments name requirement → arguments.HasCode code →
        Spelled arguments name (.basic requirement code)
  | allOf {arguments : Yaml.Mapping} {written : Yaml} {parts : List Check}
      {code : Option String} :
      arguments.get? "of" = some written → written.parts ≠ [] →
        List.Forall₂ SpelledBy written.parts parts → arguments.HasCode code →
          Spelled arguments "all_of" (.allOf parts code)
  | anyOf {arguments : Yaml.Mapping} {written : Yaml} {parts : List Check}
      {code : Option String} :
      arguments.get? "of" = some written → written.parts ≠ [] →
        List.Forall₂ SpelledBy written.parts parts → arguments.HasCode code →
          Spelled arguments "any_of" (.anyOf parts code)
  | negation {arguments : Yaml.Mapping} {written item : Yaml} {part : Check}
      {code : Option String} :
      arguments.get? "of" = some written → written.parts = [item] →
        SpelledBy item part → arguments.HasCode code →
          Spelled arguments "not" (.negation part code)

inductive SpelledBy : Yaml → Check → Prop
  | intro {value : Yaml} {name : String} {arguments : Yaml.Mapping} {check : Check} :
      value.Calls name arguments → Spelled arguments name check → SpelledBy value check

end

/-! ## Reading checks -/

def build (call : RuleCall) : Except Fault Check := ofCall call (partsOf call call.arguments)

theorem ofYaml_eq_build (place : Place) (value : Yaml) :
    ofYaml place value = RuleCall.ofYaml place value >>= build := by
  cases value with
  | str name => rfl
  | map entries =>
      rw [ofYaml]
      cases hcall : RuleCall.ofYaml place (.map entries) with
      | error fault => rfl
      | ok call =>
          obtain ⟨hcalls, -⟩ := RuleCall.ofYaml_eq_ok_iff.mp hcall
          cases hcalls with
          | mapped => rfl
  | _ => rfl

def partsUnder (call : RuleCall) : Yaml → Except Fault (List Check)
  | .seq items =>
      if items.isEmpty then .error (call.invalid "of" .noRule) else ofItems call.place 0 items
  | value => return [← ofYaml (call.place.step .part) value]

theorem partsOf_eq_partsUnder (call : RuleCall) (entries : Yaml.Mapping) :
    partsOf call entries =
      match entries.get? "of" with
      | none => .error (call.missing "of")
      | some written => partsUnder call written := by
  induction entries with
  | nil => rfl
  | cons entry rest ih =>
      obtain ⟨key, value⟩ := entry
      cases key with
      | str name =>
          by_cases hname : name = "of"
          · subst hname
            cases value <;> rfl
          · rw [Yaml.Mapping.get?, if_neg hname, ← ih]
            cases value <;> simp [partsOf, hname]
      | _ => exact ih

def IsRead (value : Yaml) : Prop :=
  ∀ place check, ofYaml place value = .ok check ↔ SpelledBy value check

theorem ofItems_eq_ok_iff {items : List Yaml} (hitems : ∀ item ∈ items, IsRead item)
    {place : Place} {index : Nat} {parts : List Check} :
    ofItems place index items = .ok parts ↔ List.Forall₂ SpelledBy items parts := by
  induction items generalizing index parts with
  | nil => rw [ofItems, Except.ok.injEq, List.forall₂_nil_left_iff, eq_comm]
  | cons item rest ih =>
      obtain ⟨hitem, hrest⟩ := List.forall_mem_cons.mp hitems
      rw [ofItems, Except.bind_eq_ok_iff, List.forall₂_cons_left_iff]
      refine exists_congr fun check => ?_
      rw [hitem, Except.bind_pure_eq_ok_iff]
      simp only [ih hrest, exists_and_left, eq_comm]

theorem partsUnder_eq_ok_iff {call : RuleCall} {written : Yaml}
    (hwritten : ∀ item ∈ written.parts, IsRead item) {parts : List Check} :
    partsUnder call written = .ok parts ↔
      written.parts ≠ [] ∧ List.Forall₂ SpelledBy written.parts parts := by
  have hsingle : ∀ {place : Place}, written.parts = [written] →
      ((do return [← ofYaml place written]) = .ok parts ↔
        written.parts ≠ [] ∧ List.Forall₂ SpelledBy written.parts parts) := by
    intro place hparts
    rw [hparts, List.forall_mem_singleton] at hwritten
    rw [hparts, Except.bind_pure_eq_ok_iff, and_iff_right (List.cons_ne_nil written []),
      List.forall₂_cons_left_iff]
    refine exists_congr fun check => ?_
    simp only [hwritten _ check, List.forall₂_nil_left_iff, exists_and_left, exists_eq_left,
      @eq_comm _ parts]
  cases written with
  | seq items =>
      rw [partsUnder, ← ofItems_eq_ok_iff hwritten, Yaml.parts]
      cases items with
      | nil => simp
      | cons item rest => exact (and_iff_right (List.cons_ne_nil item rest)).symm
  | _ => exact hsingle rfl

theorem partsOf_eq_ok_iff {call : RuleCall} {entries : Yaml.Mapping}
    (hentries : ∀ written, entries.get? "of" = some written → ∀ item ∈ written.parts, IsRead item)
    {parts : List Check} :
    partsOf call entries = .ok parts ↔
      ∃ written, entries.get? "of" = some written ∧ written.parts ≠ [] ∧
        List.Forall₂ SpelledBy written.parts parts := by
  rw [partsOf_eq_partsUnder]
  cases hof : entries.get? "of" with
  | none => simp
  | some written => simp [partsUnder_eq_ok_iff (hentries written hof)]

theorem Combination.ofName?_eq_none {arguments : Yaml.Mapping} {name : String}
    {requirement : Requirement} (hspelled : Requirement.Spelled arguments name requirement) :
    ofName? name = none := by
  cases hspelled <;> rfl

theorem build_eq_ok_iff_of_parts {call : RuleCall}
    (hparts : ∀ written, call.arguments.get? "of" = some written →
      ∀ item ∈ written.parts, IsRead item) {check : Check} :
    build call = .ok check ↔ Spelled call.arguments call.name check := by
  have hof {parts : List Check} : partsOf call call.arguments = .ok parts ↔ _ :=
    partsOf_eq_ok_iff hparts
  rw [build, ofCall, Except.bind_eq_ok_iff]
  constructor
  · rintro ⟨code, hcode, hcheck⟩
    have hcode := RuleCall.code_eq_ok_iff.mp hcode
    cases hname : Combination.ofName? call.name with
    | none =>
        rw [hname] at hcheck
        obtain ⟨requirement, hrequirement, rfl⟩ := Except.bind_pure_eq_ok_iff.mp hcheck
        exact .basic (Requirement.ofCall_eq_ok_iff.mp hrequirement) hcode
    | some combination =>
        rw [hname] at hcheck
        obtain ⟨parts, hok, hcombine⟩ := Except.bind_eq_ok_iff.mp hcheck
        obtain ⟨written, hwritten, hne, hspelled⟩ := hof.mp hok
        rw [Combination.ofName?_eq_some_iff.mp hname]
        cases combination with
        | allOf =>
            cases hcombine
            exact .allOf hwritten hne hspelled hcode
        | anyOf =>
            cases hcombine
            exact .anyOf hwritten hne hspelled hcode
        | negation =>
            obtain ⟨part, rfl, rfl⟩ := combine_negation_eq_ok_iff.mp hcombine
            generalize hitems : written.parts = items at hspelled
            rcases hspelled with _ | ⟨hpart, ⟨⟩⟩
            exact .negation hwritten hitems hpart hcode
  · obtain ⟨name, arguments, place⟩ := call
    intro hspelled
    cases hspelled with
    | basic hrequirement hcode =>
        refine ⟨_, RuleCall.code_eq_ok_iff.mpr hcode, ?_⟩
        rw [Combination.ofName?_eq_none hrequirement]
        exact Except.bind_pure_eq_ok_iff.mpr
          ⟨_, Requirement.ofCall_eq_ok_iff.mpr hrequirement, rfl⟩
    | allOf hwritten hne hspelled hcode | anyOf hwritten hne hspelled hcode =>
        refine ⟨_, RuleCall.code_eq_ok_iff.mpr hcode, ?_⟩
        exact Except.bind_eq_ok_iff.mpr ⟨_, hof.mpr ⟨_, hwritten, hne, hspelled⟩, rfl⟩
    | @negation _ written item part code hwritten hitems hpart hcode =>
        have hspelled : List.Forall₂ SpelledBy written.parts [part] := by
          rw [hitems]
          exact .cons hpart .nil
        have hne : written.parts ≠ [] := by simp [hitems]
        refine ⟨_, RuleCall.code_eq_ok_iff.mpr hcode, ?_⟩
        exact Except.bind_eq_ok_iff.mpr ⟨_, hof.mpr ⟨_, hwritten, hne, hspelled⟩, rfl⟩

theorem isRead (value : Yaml) : IsRead value := by
  induction value using Yaml.partsInduction with
  | step value ih =>
      intro place check
      rw [ofYaml_eq_build, Except.bind_eq_ok_iff]
      constructor
      · rintro ⟨call, hcall, hbuild⟩
        obtain ⟨hcalls, -⟩ := RuleCall.ofYaml_eq_ok_iff.mp hcall
        exact .intro hcalls ((build_eq_ok_iff_of_parts (ih _ _ hcalls)).mp hbuild)
      · rintro ⟨hcalls, hspelled⟩
        exact ⟨⟨_, _, place⟩, RuleCall.ofYaml_eq_ok_iff.mpr ⟨hcalls, rfl⟩,
          (build_eq_ok_iff_of_parts (ih _ _ hcalls)).mpr hspelled⟩

theorem ofYaml_eq_ok_iff {place : Place} {value : Yaml} {check : Check} :
    ofYaml place value = .ok check ↔ SpelledBy value check :=
  isRead value place check

theorem build_eq_ok_iff {call : RuleCall} {check : Check} :
    build call = .ok check ↔ Spelled call.arguments call.name check :=
  build_eq_ok_iff_of_parts fun _ _ item _ => isRead item

end Check

end SubjectRules
