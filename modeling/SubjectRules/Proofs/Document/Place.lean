import SubjectRules.Proofs.Document.Spelling

/-!
# Where faults lie

Whatever is wrong with a rule is reported at the place of the rule, or at the place of one of
the rules that it is built of.
-/

namespace SubjectRules

variable {α β : Type}

/-! ## Places -/

namespace Place

/-- The inner place is the outer one or in its rules. -/
def Encloses (outer inner : Place) : Prop :=
  inner.fields = outer.fields ∧ outer.steps <+: inner.steps

theorem Encloses.refl (place : Place) : place.Encloses place := ⟨rfl, List.prefix_rfl⟩

theorem Encloses.trans {outer middle inner : Place} (h : outer.Encloses middle)
    (h' : middle.Encloses inner) : outer.Encloses inner :=
  ⟨h'.1.trans h.1, h.2.trans h'.2⟩

theorem encloses_step (place : Place) (s : PlaceStep) : place.Encloses (place.step s) :=
  ⟨rfl, List.prefix_append _ _⟩

theorem Encloses.exists_text {outer inner : Place} (h : outer.Encloses inner) :
    ∃ rest, inner.text = outer.text ++ rest := by
  obtain ⟨hfields, steps, hsteps⟩ := h
  refine ⟨String.join (steps.map PlaceStep.text), ?_⟩
  rw [text, text, hfields, ← hsteps, List.map_append, String.join_append, String.append_assoc]

end Place

/-! ## Failing at a place -/

/-- Every fault is at the place or in its rules. -/
def FailsWithin (place : Place) (x : Except Fault α) : Prop :=
  ∀ fault, x = .error fault → place.Encloses fault.place

namespace FailsWithin

variable {place : Place}

theorem ok (a : α) : FailsWithin place (.ok a) := by
  rintro fault ⟨⟩

theorem error {fault : Fault} (h : fault.place = place) :
    FailsWithin place (.error fault : Except Fault α) := by
  rintro _ ⟨⟩
  exact h ▸ .refl place

theorem bind {x : Except Fault α} {f : α → Except Fault β} (hx : FailsWithin place x)
    (hf : ∀ a, x = .ok a → FailsWithin place (f a)) : FailsWithin place (x >>= f) := by
  intro fault hfault
  rcases Except.bind_eq_error_iff.mp hfault with hfirst | ⟨a, ha, hsecond⟩
  · exact hx fault hfirst
  · exact hf a ha fault hsecond

theorem mono {inner : Place} {x : Except Fault α} (h : place.Encloses inner)
    (hx : FailsWithin inner x) : FailsWithin place x :=
  fun fault hfault => h.trans (hx fault hfault)

end FailsWithin

/-! ## Readers of arguments -/

namespace RuleCall

variable (call : RuleCall) (key : String)

theorem failsWithin_required : FailsWithin call.place (call.required key) := by
  rw [required]
  split
  · exact .ok _
  · exact .error rfl

theorem failsWithin_text : FailsWithin call.place (call.text key) := by
  refine (call.failsWithin_required key).bind fun written _ => ?_
  split
  · exact .ok _
  · exact .error rfl

theorem failsWithin_code : FailsWithin call.place call.code := by
  rw [code]
  split
  · exact .ok _
  · split
    · exact .ok _
    · exact .error rfl

section

variable [Yaml.JsonForm]

theorem failsWithin_json : FailsWithin call.place (call.json key) := by
  refine (call.failsWithin_required key).bind fun written _ => ?_
  split
  · exact .ok _
  · exact .error rfl

theorem failsWithin_number : FailsWithin call.place (call.number key) := by
  refine (call.failsWithin_json key).bind fun value _ => ?_
  split
  · exact .ok _
  · exact .error rfl

theorem failsWithin_count : FailsWithin call.place (call.count key) := by
  refine (call.failsWithin_number key).bind fun n _ => ?_
  split
  · exact .ok _
  · exact .error rfl

theorem failsWithin_items : FailsWithin call.place (call.items key) := by
  refine (call.failsWithin_json key).bind fun value _ => ?_
  split
  · exact .ok _
  · exact .error rfl

end

theorem failsWithin_ofYaml (place : Place) (value : Yaml) :
    FailsWithin place (ofYaml place value) := by
  rw [ofYaml]
  split
  · exact .ok _
  all_goals exact .error rfl

end RuleCall

/-! ## Rules -/

theorem Check.failsWithin_combine [PatternEngine] (call : RuleCall) (code : Option String)
    (parts : List Check) (combination : Combination) :
    FailsWithin call.place (combine call code parts combination) := by
  cases combination with
  | allOf | anyOf => exact .ok _
  | negation =>
      match parts with
      | [] | _ :: _ :: _ => exact .error rfl
      | [part] => exact .ok _

variable [Yaml.JsonForm]

theorem Conversion.failsWithin_ofCall (call : RuleCall) :
    FailsWithin call.place (Conversion.ofCall call) := by
  rw [ofCall]
  split
  case h_5 => exact (call.failsWithin_json "value").bind fun _ _ => .ok _
  case h_6 => exact .error rfl
  all_goals exact .ok _

theorem Conversion.failsWithin_ofYaml (place : Place) (value : Yaml) :
    FailsWithin place (Conversion.ofYaml place value) := by
  refine (RuleCall.failsWithin_ofYaml place value).bind fun call hcall => ?_
  obtain ⟨-, rfl⟩ := RuleCall.ofYaml_eq_ok_iff.mp hcall
  exact failsWithin_ofCall call

variable [PatternEngine]

theorem Requirement.failsWithin_ofCall (call : RuleCall) :
    FailsWithin call.place (Requirement.ofCall call) := by
  rw [ofCall]
  split
  case h_1 | h_2 => exact .ok _
  case h_3 | h_4 => exact (call.failsWithin_number "value").bind fun _ _ => .ok _
  case h_5 | h_6 => exact (call.failsWithin_count "value").bind fun _ _ => .ok _
  case h_7 =>
      refine (call.failsWithin_text "value").bind fun source _ => ?_
      split
      · exact .ok _
      · exact .error rfl
  case h_8 => exact (call.failsWithin_items "values").bind fun _ _ => .ok _
  case h_9 | h_10 => exact (call.failsWithin_text "value").bind fun _ _ => .ok _
  case h_11 => exact .error rfl

namespace Check

theorem failsWithin_ofCall {call : RuleCall} {parts : Except Fault (List Check)}
    (hparts : FailsWithin call.place parts) : FailsWithin call.place (ofCall call parts) := by
  refine call.failsWithin_code.bind fun code _ => ?_
  cases Combination.ofName? call.name with
  | none => exact (Requirement.failsWithin_ofCall call).bind fun _ _ => .ok _
  | some combination => exact hparts.bind fun parts _ => failsWithin_combine call code parts _

theorem failsWithin_ofItems {items : List Yaml}
    (hitems : ∀ item ∈ items, ∀ place, FailsWithin place (ofYaml place item))
    (place : Place) (index : Nat) : FailsWithin place (ofItems place index items) := by
  induction items generalizing index with
  | nil => exact .ok _
  | cons item rest ih =>
      obtain ⟨hitem, hrest⟩ := List.forall_mem_cons.mp hitems
      refine ((hitem _).mono (place.encloses_step _)).bind fun check _ => ?_
      exact (ih hrest (index + 1)).bind fun _ _ => .ok _

theorem failsWithin_partsUnder {call : RuleCall} {written : Yaml}
    (hwritten : ∀ item ∈ written.parts, ∀ place, FailsWithin place (ofYaml place item)) :
    FailsWithin call.place (partsUnder call written) := by
  have hsingle : written.parts = [written] →
      FailsWithin call.place (do return [← ofYaml (call.place.step .part) written]) := by
    intro hparts
    rw [hparts, List.forall_mem_singleton] at hwritten
    exact ((hwritten _).mono (call.place.encloses_step .part)).bind fun _ _ => .ok _
  cases written with
  | seq items =>
      rw [partsUnder]
      split
      · exact .error rfl
      · exact failsWithin_ofItems hwritten call.place 0
  | _ => exact hsingle rfl

theorem failsWithin_ofYaml (place : Place) (value : Yaml) :
    FailsWithin place (ofYaml place value) := by
  induction value using Yaml.partsInduction generalizing place with
  | step value ih =>
      rw [ofYaml_eq_build]
      refine (RuleCall.failsWithin_ofYaml place value).bind fun call hcall => ?_
      obtain ⟨hcalls, rfl⟩ := RuleCall.ofYaml_eq_ok_iff.mp hcall
      refine failsWithin_ofCall ?_
      rw [partsOf_eq_partsUnder]
      split
      · exact .error rfl
      · rename_i written hwritten
        exact failsWithin_partsUnder (ih _ _ hcalls written hwritten)

end Check

end SubjectRules
