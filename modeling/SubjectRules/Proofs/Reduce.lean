import SubjectRules.Reduce

/-!
# What a reduction resolves to

When the values of the items do not depend on the state they are evaluated against, a
reduction resolves to the sequential combination of the values, whichever of them are
promised.
-/

namespace SubjectRules.Reducer

variable {ε ι κ σ ο : Type} {r : Reducer ε ι κ σ ο} {values : ι → Nat → κ}

def evaluated (values : ι → Nat → κ) (index : Nat) (items : List ι) : List (κ × Nat) :=
  (items.zipIdx index).map fun (item, i) => (values item i, i)

theorem evaluated_cons (values : ι → Nat → κ) (index : Nat) (item : ι) (rest : List ι) :
    evaluated values index (item :: rest) =
      (values item index, index) :: evaluated values (index + 1) rest := rfl

theorem value_dispatch {state : σ}
    (hvalues : ∀ item index, (r.evaluate state item index).value.value = values item index)
    (index : Nat) (items : List ι) :
    ((r.dispatch state index items).value.map Promise.value).zipIdx index =
      evaluated values index items := by
  induction items generalizing index with
  | nil => rfl
  | cons item rest ih =>
      have hitem : (r.evaluate state item index).value.promise.value = values item index :=
        hvalues item index
      rw [evaluated_cons, ← ih, ← hitem]
      rfl

theorem runFrom_of_now {state : σ} {index : Nat} {item : ι} {value : κ}
    (hnow : (r.evaluate state item index).value = .now value) (rest : List ι) :
    r.runFrom state index (item :: rest) = do
      let _ ← r.evaluate state item index
      match ← r.combine state value index with
      | .next state => r.runFrom state (index + 1) rest
      | .stop result => return .now result := by
  rw [runFrom]
  apply Logged.ext
  · rw [Logged.value_bind, hnow]
    rfl
  · rw [Logged.log_bind, hnow]
    rfl

/-- From the first promised value on, all items are evaluated against the same state. -/
theorem runFrom_of_later {state : σ} {index : Nat} {item : ι} {first : Promise ε κ}
    (hlater : (r.evaluate state item index).value = .later first) (rest : List ι) :
    r.runFrom state index (item :: rest) = do
      let promises ← r.dispatch state index (item :: rest)
      return .later ((Promise.all promises).mapLogged fun values =>
        r.combineAll state (values.zipIdx index)) := by
  rw [runFrom, dispatch]
  apply Logged.ext <;> simp [hlater, Answer.promise]

theorem value_runFrom_of_later {state : σ} {index : Nat} {item : ι} {first : Promise ε κ}
    (hlater : (r.evaluate state item index).value = .later first)
    (hvalues : ∀ item index, (r.evaluate state item index).value.value = values item index)
    (rest : List ι) :
    (r.runFrom state index (item :: rest)).value.value =
      (r.combineAll state (evaluated values index (item :: rest))).value := by
  rw [runFrom_of_later hlater, ← value_dispatch hvalues]
  simp

theorem value_runFrom
    (hvalues : ∀ state item index, (r.evaluate state item index).value.value = values item index)
    (state : σ) (index : Nat) (items : List ι) :
    (r.runFrom state index items).value.value =
      (r.combineAll state (evaluated values index items)).value := by
  induction items generalizing state index with
  | nil => rfl
  | cons item rest ih =>
      cases hanswer : (r.evaluate state item index).value with
      | later first => exact value_runFrom_of_later hanswer (hvalues state) rest
      | now value =>
          have hvalue : value = values item index := by
            rw [← hvalues state item index, hanswer, Answer.value_now]
          rw [evaluated_cons, combineAll, runFrom_of_now hanswer]
          simp only [Logged.value_bind, hvalue]
          cases (r.combine state (values item index) index).value with
          | next state => exact ih state (index + 1)
          | stop result => rfl

theorem value_run (values : ι → Nat → κ)
    (hvalues : ∀ state item index, (r.evaluate state item index).value.value = values item index)
    (initial : σ) (items : List ι) :
    (r.run initial items).value.value =
      (r.combineAll initial (evaluated values 0 items)).value :=
  value_runFrom hvalues initial 0 items

/-! ## Combining without indices -/

def foldUntil (step : σ → κ → Flow ο σ) (finish : σ → ο) : σ → List κ → ο
  | state, [] => finish state
  | state, value :: rest =>
      match step state value with
      | .next state => foldUntil step finish state rest
      | .stop result => result

theorem value_combineAll {step : σ → κ → Flow ο σ}
    (hcombine : ∀ state value index, (r.combine state value index).value = step state value)
    (state : σ) (index : Nat) (values : List κ) :
    (r.combineAll state (values.zipIdx index)).value = foldUntil step r.finish state values := by
  induction values generalizing state index with
  | nil => rfl
  | cons value rest ih =>
      rw [List.zipIdx_cons, combineAll, Logged.value_bind, hcombine, foldUntil]
      cases step state value with
      | next state => exact ih state (index + 1)
      | stop result => rfl

theorem value_run_eq_foldUntil {values : ι → κ} {step : σ → κ → Flow ο σ}
    (hvalues : ∀ state item index, (r.evaluate state item index).value.value = values item)
    (hcombine : ∀ state value index, (r.combine state value index).value = step state value)
    (initial : σ) (items : List ι) :
    (r.run initial items).value.value =
      foldUntil step r.finish initial (items.map values) := by
  have hevaluated : evaluated (fun item _ => values item) 0 items =
      (items.map values).zipIdx 0 := by
    rw [evaluated, List.zipIdx_map]
    rfl
  rw [value_run (fun item _ => values item) hvalues, hevaluated, value_combineAll hcombine]

end SubjectRules.Reducer
