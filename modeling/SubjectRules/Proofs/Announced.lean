import SubjectRules.Proofs.Answer
import SubjectRules.Proofs.Subject
import SubjectRules.Proofs.Walk.Trace

/-!
# Calls that announce their deferral

Suppose that a rule logs an event of a certain kind whenever it defers.  Then whatever is
put together from such rules logs one, too, when it defers: no combination, walk or guard
defers of its own accord.  So without such an event in its log an answer is there at once.
-/

namespace SubjectRules

variable {ε ι κ ρ σ α β : Type} {defers : ε → Prop}

/-- A call that answers at once, or logs that it does not. -/
def Answer.Announced (defers : ε → Prop) (call : Logged ε (Answer ε α)) : Prop :=
  call.value.isNow = true ∨ ∃ event ∈ call.log, defers event

def Answer.marked (mark : ε) (call : Logged ε (Answer ε α)) : Logged ε (Answer ε α) := do
  let answer ← call
  if answer.isNow then return answer
  else do
    Logged.emit mark
    return answer

theorem Answer.value_marked (mark : ε) (call : Logged ε (Answer ε α)) :
    (marked mark call).value = call.value := by
  rw [marked, Logged.value_bind]
  split <;> rfl

namespace Answer.Announced

theorem now (a : α) : Announced defers (pure (.now a)) := .inl rfl

theorem isNow {call : Logged ε (Answer ε α)} (h : Announced defers call)
    (hnone : ∀ event ∈ call.log, ¬ defers event) : call.value.isNow = true := by
  rcases h with hnow | ⟨event, hmem, hdefers⟩
  · exact hnow
  · exact absurd hdefers (hnone event hmem)

theorem of_log_subset {call other : Logged ε (Answer ε α)} (h : Announced defers call)
    (hvalue : other.value = call.value) (hlog : call.log ⊆ other.log) :
    Announced defers other := by
  rcases h with hnow | ⟨event, hmem, hdefers⟩
  · exact .inl (hvalue ▸ hnow)
  · exact .inr ⟨event, hlog hmem, hdefers⟩

theorem bind {x : Logged ε β} {next : β → Logged ε (Answer ε α)}
    (h : Announced defers (next x.value)) : Announced defers (x >>= next) :=
  h.of_log_subset rfl (List.subset_append_right x.log _)

theorem map (f : α → β) {call : Logged ε (Answer ε α)} (h : Announced defers call) :
    Announced defers (do return (← call).map f) := by
  rcases h with hnow | ⟨event, hmem, hdefers⟩
  · obtain ⟨a, ha⟩ := eq_now_of_isNow hnow
    refine .inl ?_
    change (call.value.map f).isNow = true
    rw [ha]
    rfl
  · exact .inr ⟨event, List.mem_append_left _ hmem, hdefers⟩

/-- A step either runs at once or waits for an answer whose deferral was announced. -/
theorem andThen {call : Logged ε (Answer ε α)} {next : α → Logged ε (Answer ε β)}
    (hcall : Announced defers call) (hnext : ∀ a, Announced defers (next a)) :
    Announced defers (call >>= fun answer => answer.andThen next) := by
  rcases hcall with hnow | ⟨event, hmem, hdefers⟩
  · obtain ⟨a, ha⟩ := eq_now_of_isNow hnow
    apply bind
    rw [ha]
    exact hnext a
  · exact .inr ⟨event, List.mem_append_left _ hmem, hdefers⟩

theorem mapLogged (f : α → Logged ε β) {call : Logged ε (Answer ε α)}
    (hcall : Announced defers call) :
    Announced defers (call >>= fun answer => answer.mapLogged f) := by
  rcases hcall with hnow | ⟨event, hmem, hdefers⟩
  · obtain ⟨a, ha⟩ := eq_now_of_isNow hnow
    apply bind
    rw [ha]
    exact .inl rfl
  · exact .inr ⟨event, List.mem_append_left _ hmem, hdefers⟩

theorem marked (mark : ε) (call : Logged ε (Answer ε α)) :
    Announced (· = mark) (Answer.marked mark call) := by
  cases hnow : call.value.isNow with
  | true =>
      refine .inl ?_
      rw [value_marked, hnow]
  | false =>
      refine .inr ⟨mark, ?_, rfl⟩
      rw [Answer.marked, Logged.log_bind, hnow]
      exact List.mem_append_right _ List.mem_cons_self

end Answer.Announced

open Answer (Announced)

/-! ## Reductions -/

theorem Reducer.announced_runFrom {r : Reducer ε ι κ σ β} {items : List ι}
    (hevaluate : ∀ item ∈ items, ∀ state index, Announced defers (r.evaluate state item index))
    (state : σ) (index : Nat) : Announced defers (r.runFrom state index items) := by
  induction items generalizing state index with
  | nil => exact .now _
  | cons item rest ih =>
      have hrest := ih fun other hother => hevaluate other (List.mem_cons_of_mem _ hother)
      rw [runFrom]
      rcases hevaluate item List.mem_cons_self state index with hnow | ⟨event, hmem, hdefers⟩
      · obtain ⟨value, hvalue⟩ := Answer.eq_now_of_isNow hnow
        apply Announced.bind
        rw [hvalue]
        apply Announced.bind
        cases (r.combine state value index).value with
        | next state => exact hrest state (index + 1)
        | stop result => exact .now result
      · exact .inr ⟨event, List.mem_append_left _ hmem, hdefers⟩

/-! ## Walks -/

theorem Walk.mem_passCalls_of_mem_visits {w : Walk ε ρ α} {s : Schema ρ}
    (hnow : (w.visits s).findSome? w.hitNow = none) {visit : Visit ρ}
    (hvisit : visit ∈ w.visits s) : Call.ask visit.rules visit.value ∈ w.passCalls s := by
  have horder := w.passCalls_order s
  have hasked : w.asked s = w.visits s := by
    rw [asked, horder.whole hnow]
    rfl
  have hmem : (visit.rules, visit.value) ∈ (w.passCalls s).filterMap Call.asked? := by
    rw [horder.asks, hasked]
    exact List.mem_map_of_mem hvisit
  obtain ⟨call, hcall, heq⟩ := List.mem_filterMap.mp hmem
  cases call with
  | ask rules value =>
      cases heq
      exact hcall
  | prune | test | keep => cases heq

theorem Walk.announced_run {w : Walk ε ρ α} {s : Schema ρ}
    (hask : ∀ visit ∈ w.visits s, Announced defers (w.ask visit.rules visit.value)) :
    Announced defers (w.run s) := by
  cases hnow : (w.visits s).findSome? w.hitNow with
  | some hit =>
      refine .inl ?_
      rw [value_run, hnow]
      rfl
  | none =>
      cases hany : (w.visits s).any fun visit => !(w.answer visit).isNow with
      | false =>
          refine .inl ?_
          rw [value_run, hnow]
          dsimp only
          rw [any_isPromised, hany]
          rfl
      | true =>
          obtain ⟨visit, hvisit, hlater⟩ := List.any_eq_true.mp hany
          rcases hask visit hvisit with hanswer | ⟨event, hmem, hdefers⟩
          · rw [answer, hanswer] at hlater
            cases hlater
          · refine .inr ⟨event, ?_, hdefers⟩
            rw [log_run, List.mem_flatMap]
            exact ⟨_, mem_passCalls_of_mem_visits hnow hvisit, hmem⟩

/-! ## Combinations -/

theorem Transformer.announced_pipe {steps : List (Transformer ε)}
    (hsteps : ∀ step ∈ steps, ∀ value, Announced defers (step.apply value))
    (value : Option Json) : Announced defers ((pipe steps).apply value) := by
  change Announced defers (steps.foldlM _ (.now value))
  induction steps generalizing value with
  | nil => exact .now value
  | cons step rest ih =>
      have hrest := ih fun other hother => hsteps other (List.mem_cons_of_mem _ hother)
      rw [List.foldlM_cons]
      rcases hsteps step List.mem_cons_self value with hnow | ⟨event, hmem, hdefers⟩
      · obtain ⟨output, houtput⟩ := Answer.eq_now_of_isNow hnow
        apply Announced.bind
        change Announced defers (rest.foldlM _ (step.apply value).value)
        rw [houtput]
        exact hrest output
      · exact .inr ⟨event, List.mem_append_left _ hmem, hdefers⟩

namespace Validator

variable {rules : List (Validator ε)} {rule : Validator ε}

theorem announced_all (abortEarly : Bool) (override : Option Failure)
    (hrules : ∀ rule ∈ rules, ∀ value, Announced defers (rule.check value))
    (value : Option Json) : Announced defers ((all rules abortEarly override).check value) :=
  Reducer.announced_runFrom (fun rule hrule _ _ => hrules rule hrule value) [] 0

theorem announced_any (override : Option Failure)
    (hrules : ∀ rule ∈ rules, ∀ value, Announced defers (rule.check value))
    (value : Option Json) : Announced defers ((any rules override).check value) :=
  Reducer.announced_runFrom (fun rule hrule _ _ => hrules rule hrule value) [] 0

theorem announced_negate (failure : Failure)
    (hrule : ∀ value, Announced defers (rule.check value)) (value : Option Json) :
    Announced defers ((rule.negate failure).check value) :=
  (hrule value).map _

theorem announced_relabel (code : String)
    (hrule : ∀ value, Announced defers (rule.check value)) (value : Option Json) :
    Announced defers ((rule.relabel code).check value) :=
  (hrule value).map _

end Validator

/-! ## Leaves, validation and transformation -/

section Schemas

variable {check : ρ → Validator ε} {step : ρ → Transformer ε}

theorem Validator.announced_ofLeaf
    (hcheck : ∀ rule value, Announced defers ((check rule).check value)) (rules : Leaf ρ)
    (value : Option Json) : Announced defers ((ofLeaf (rules.map check)).check value) := by
  cases rules with
  | single rule => exact hcheck rule value
  | chain rules =>
      refine announced_all true none ?_ value
      exact List.forall_mem_map.mpr fun rule _ => hcheck rule

theorem Transformer.announced_ofLeaf
    (hstep : ∀ rule value, Announced defers ((step rule).apply value)) (rules : Leaf ρ)
    (value : Option Json) : Announced defers ((ofLeaf (rules.map step)).apply value) := by
  cases rules with
  | single rule => exact hstep rule value
  | chain rules =>
      refine announced_pipe ?_ value
      exact List.forall_mem_map.mpr fun rule _ => hstep rule

theorem announced_validate (hcheck : ∀ rule value, Announced defers ((check rule).check value))
    (subject : Json.Fields) (schema : Schema ρ) (abortEarly : Bool) :
    Announced defers (validate subject (schema.map check) abortEarly) := by
  have hrun : Announced defers ((validation subject abortEarly).run (schema.map check)) := by
    refine Walk.announced_run fun visit hvisit => ?_
    obtain ⟨source, rfl⟩ := Schema.exists_eq_map_of_mem_visitsBeside hvisit
    exact Validator.announced_ofLeaf hcheck source.rules source.value
  exact hrun.map _

theorem announced_transform (hstep : ∀ rule value, Announced defers ((step rule).apply value))
    (subject : Json.Fields) (schema : Schema ρ) :
    Announced defers (transform subject (schema.map step)) := by
  have hrun : Announced defers ((transformation subject).run (schema.map step)) := by
    refine Walk.announced_run fun visit hvisit => ?_
    obtain ⟨source, rfl⟩ := Schema.exists_eq_map_of_mem_visitsBeside hvisit
    exact Transformer.announced_ofLeaf hstep source.rules source.value
  exact hrun.map _

end Schemas

end SubjectRules
