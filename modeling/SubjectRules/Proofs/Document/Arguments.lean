import SubjectRules.Document.Entry
import SubjectRules.Proofs.Except
import SubjectRules.Proofs.Yaml.Mapping

/-!
# Arguments as they are written

A rule is called by its name alone or by a mapping that holds the name under `rule` and the
arguments beside it.  Each reader of an argument succeeds on exactly the arguments of its kind.
A tagged string counts as a string where an argument is read, and neither as a rule nor as the
name of one.
-/

namespace SubjectRules

namespace Yaml

/-- A rule: a name without arguments, or a mapping that holds the name. -/
inductive Calls : Yaml → String → Mapping → Prop
  | alone (name : String) : Calls (.str name) name []
  | mapped {arguments : Mapping} {name : String} :
      arguments.get? "rule" = some (.str name) → Calls (.map arguments) name arguments

/-- The rules that an argument holds: the items of a sequence, or the value alone. -/
def parts : Yaml → List Yaml
  | .seq items => items
  | value => [value]

namespace Mapping

def HasJson [JsonForm] (arguments : Mapping) (key : String) (value : Json) : Prop :=
  ∃ written, arguments.get? key = some written ∧ JsonForm.of written = .ok value

/-- The argument is a non-negative integer. -/
def HasCount [JsonForm] (arguments : Mapping) (key : String) (n : Nat) : Prop :=
  arguments.HasJson key (.num (.int n))

def HasText (arguments : Mapping) (key text : String) : Prop :=
  ∃ written, arguments.get? key = some written ∧ written.text? = some text

inductive HasCode (arguments : Mapping) : Option String → Prop
  | absent : arguments.get? "code" = none → HasCode arguments none
  | given {code : String} : arguments.HasText "code" code → HasCode arguments (some code)

theorem HasCode.eq_some {arguments : Mapping} {code : Option String} {own : String}
    (hcode : arguments.HasCode code) (hown : arguments.HasText "code" own) : code = some own := by
  obtain ⟨written, hwritten, htext⟩ := hown
  rcases hcode with hnone | ⟨other, hother, hothertext⟩
  · cases hnone.symm.trans hwritten
  · cases hother.symm.trans hwritten
    exact hothertext.symm.trans htext

end Mapping

end Yaml

theorem Json.Number.toCount?_eq_some_iff {number : Json.Number} {n : Nat} :
    number.toCount? = some n ↔ number = .int n := by
  cases number with
  | int value =>
      rw [toCount?, int.injEq]
      split
      · rw [Option.some.injEq]
        omega
      · simp only [reduceCtorEq, false_iff]
        omega
  | float value => simp [toCount?]

namespace RuleCall

variable {call : RuleCall} {key : String}

theorem ofYaml_eq_ok_iff {place : Place} {value : Yaml} :
    ofYaml place value = .ok call ↔
      value.Calls call.name call.arguments ∧ call.place = place := by
  obtain ⟨name, arguments, there⟩ := call
  rw [ofYaml]
  constructor
  · intro hcall
    cases value with
    | str written =>
        cases hcall
        exact ⟨.alone name, rfl⟩
    | map entries =>
        rw [EntryForm.ofYaml] at hcall
        cases hrule : Yaml.Mapping.get? "rule" entries with
        | none => simp [hrule] at hcall
        | some written =>
            cases written with
            | str =>
                simp only [hrule] at hcall
                cases hcall
                exact ⟨.mapped hrule, rfl⟩
            | _ => simp [hrule] at hcall
    | _ => cases hcall
  · rintro ⟨hcalls, rfl⟩
    cases hcalls with
    | alone => rfl
    | mapped hrule => simp [EntryForm.ofYaml, hrule]

theorem required_eq_ok_iff {value : Yaml} :
    call.required key = .ok value ↔ call.arguments.get? key = some value := by
  rw [required, argument?]
  cases call.arguments.get? key <;> simp

section

variable [Yaml.JsonForm]

theorem json_eq_ok_iff {value : Json} :
    call.json key = .ok value ↔ call.arguments.HasJson key value := by
  rw [json, Except.bind_eq_ok_iff]
  simp only [required_eq_ok_iff]
  refine exists_congr fun written => and_congr_right fun _ => ?_
  cases Yaml.JsonForm.of written <;> simp [pure, Except.pure, throw, throwThe, MonadExceptOf.throw]

theorem number_eq_ok_iff {n : Json.Number} :
    call.number key = .ok n ↔ call.arguments.HasJson key (.num n) := by
  rw [number, Except.bind_eq_ok_iff]
  simp only [json_eq_ok_iff]
  constructor
  · rintro ⟨value, hvalue, hnumber⟩
    cases value with
    | num =>
        cases hnumber
        exact hvalue
    | _ => cases hnumber
  · intro hvalue
    exact ⟨.num n, hvalue, rfl⟩

theorem items_eq_ok_iff {items : List Json} :
    call.items key = .ok items ↔ call.arguments.HasJson key (.arr items) := by
  rw [RuleCall.items, Except.bind_eq_ok_iff]
  simp only [json_eq_ok_iff]
  constructor
  · rintro ⟨value, hvalue, hitems⟩
    cases value with
    | arr =>
        cases hitems
        exact hvalue
    | _ => cases hitems
  · intro hvalue
    exact ⟨.arr items, hvalue, rfl⟩

theorem count_eq_ok_iff {n : Nat} :
    call.count key = .ok n ↔ call.arguments.HasCount key n := by
  rw [count, Except.bind_eq_ok_iff]
  simp only [number_eq_ok_iff]
  constructor
  · rintro ⟨number, hnumber, hcount⟩
    cases hn : number.toCount? with
    | none => simp [hn, throw, throwThe, MonadExceptOf.throw] at hcount
    | some count =>
        simp only [hn] at hcount
        cases hcount
        rw [Json.Number.toCount?_eq_some_iff.mp hn] at hnumber
        exact hnumber
  · intro hcount
    refine ⟨.int n, hcount, ?_⟩
    rw [Json.Number.toCount?_eq_some_iff.mpr rfl]
    rfl

end

theorem text_eq_ok_iff {text : String} :
    call.text key = .ok text ↔ call.arguments.HasText key text := by
  rw [RuleCall.text, Except.bind_eq_ok_iff]
  simp only [required_eq_ok_iff]
  refine exists_congr fun written => and_congr_right fun _ => ?_
  cases written.text? <;> simp [pure, Except.pure, throw, throwThe, MonadExceptOf.throw]

theorem code_eq_ok_iff {code : Option String} :
    call.code = .ok code ↔ call.arguments.HasCode code := by
  rw [RuleCall.code, argument?]
  constructor
  · intro hcode
    cases hwritten : call.arguments.get? "code" with
    | none =>
        rw [hwritten] at hcode
        cases hcode
        exact .absent hwritten
    | some written =>
        cases htext : written.text? with
        | none => simp [hwritten, htext] at hcode
        | some text =>
            simp only [hwritten, htext] at hcode
            cases hcode
            exact .given ⟨written, hwritten, htext⟩
  · rintro (hnone | ⟨written, hwritten, htext⟩)
    · rw [hnone]
    · simp only [hwritten, htext]

end RuleCall

end SubjectRules
