import SubjectRules.Proofs.Reduce

/-!
# Reductions as folds

A reduction goes through states, one for each value that is combined, up to the first exit.
Its values are combined in order, each with the state before it.  What the promised values
change is the state that an item is evaluated against: from the first promised evaluation on
it is the one reached until then.
-/

namespace SubjectRules.Reducer

variable {ε ι κ σ ο : Type} {r : Reducer ε ι κ σ ο}

def resolved (r : Reducer ε ι κ σ ο) (state : σ) (item : ι) (index : Nat) : κ :=
  (r.evaluate state item index).value.value

/-- A fold of items that start at `first`.  Item `i` of them is evaluated against the state
`against i`, and its value is combined with `states i`.  After `count` items the fold ends: with
an exit at the next one, or finished because there is none. -/
structure Folds (r : Reducer ε ι κ σ ο) (first : Nat) (against states : Nat → σ) (items : List ι)
    (count : Nat) (result : ο) : Prop where
  step : ∀ i < count, ∃ item, items[i]? = some item ∧
    (r.combine (states i) (r.resolved (against i) item (first + i)) (first + i)).value =
      .next (states (i + 1))
  ends : (count = items.length ∧ result = r.finish (states count)) ∨
    ∃ item, items[count]? = some item ∧
      (r.combine (states count) (r.resolved (against count) item (first + count))
        (first + count)).value = .stop result

namespace Folds

variable {first : Nat} {against states : Nat → σ} {item : ι} {rest : List ι} {count : Nat}
  {result : ο}

theorem nil (r : Reducer ε ι κ σ ο) (first : Nat) (against states : Nat → σ) :
    r.Folds first against states [] 0 (r.finish (states 0)) where
  step _ hi := absurd hi (Nat.not_lt_zero _)
  ends := .inl ⟨rfl, rfl⟩

theorem stop (rest : List ι)
    (hstop : (r.combine (states 0) (r.resolved (against 0) item first) first).value =
      .stop result) : r.Folds first against states (item :: rest) 0 result where
  step _ hi := absurd hi (Nat.not_lt_zero _)
  ends := .inr ⟨item, rfl, hstop⟩

theorem cons
    (hnext : (r.combine (states 0) (r.resolved (against 0) item first) first).value =
      .next (states 1))
    (hrest : r.Folds (first + 1) (fun i => against (i + 1)) (fun i => states (i + 1)) rest count
      result) : r.Folds first against states (item :: rest) (count + 1) result := by
  have hindex : ∀ i, first + 1 + i = first + (i + 1) := Nat.succ_add_eq_add_succ first
  constructor
  · intro i hi
    cases i with
    | zero => exact ⟨item, rfl, hnext⟩
    | succ i =>
        obtain ⟨next, hitem, hcombine⟩ := hrest.step i (Nat.lt_of_succ_lt_succ hi)
        rw [hindex] at hcombine
        exact ⟨next, hitem, hcombine⟩
  · rcases hrest.ends with ⟨hcount, hresult⟩ | ⟨next, hitem, hcombine⟩
    · exact .inl ⟨congrArg (· + 1) hcount, hresult⟩
    · rw [hindex] at hcombine
      exact .inr ⟨next, hitem, hcombine⟩

theorem cons_cases (hfolds : r.Folds first against states (item :: rest) count result) :
    (count = 0 ∧ (r.combine (states 0) (r.resolved (against 0) item first) first).value =
        .stop result) ∨
      ∃ count', count = count' + 1 ∧
        (r.combine (states 0) (r.resolved (against 0) item first) first).value =
          .next (states 1) ∧
        r.Folds (first + 1) (fun i => against (i + 1)) (fun i => states (i + 1)) rest count'
          result := by
  have hindex : ∀ i, first + (i + 1) = first + 1 + i := fun i =>
    (Nat.succ_add_eq_add_succ first i).symm
  cases count with
  | zero =>
      rcases hfolds.ends with ⟨hcount, -⟩ | ⟨_, hitem, hcombine⟩
      · cases hcount
      · cases hitem
        exact .inl ⟨rfl, hcombine⟩
  | succ count =>
      obtain ⟨_, hitem, hnext⟩ := hfolds.step 0 (Nat.succ_pos count)
      cases hitem
      refine .inr ⟨count, rfl, hnext, fun i hi => ?_, ?_⟩
      · rw [← hindex]
        exact hfolds.step (i + 1) (Nat.succ_lt_succ hi)
      · rw [← hindex]
        exact hfolds.ends.imp_left fun ⟨hcount, hresult⟩ => ⟨Nat.succ.inj hcount, hresult⟩

theorem count_of_nil (hfolds : r.Folds first against states [] count result) : count = 0 := by
  rcases hfolds.ends with ⟨hcount, -⟩ | ⟨_, hitem, -⟩
  · exact hcount
  · cases hitem

end Folds

def startingWith (state : σ) (others : Nat → σ) : Nat → σ
  | 0 => state
  | i + 1 => others i

/-! ## Evaluations against one state -/

theorem folds_combineAll (r : Reducer ε ι κ σ ο) (base state : σ) (first : Nat)
    (items : List ι) :
    ∃ states count, states 0 = state ∧
      r.Folds first (fun _ => base) states items count
        (r.combineAll state (evaluated (r.resolved base) first items)).value := by
  induction items generalizing state first with
  | nil => exact ⟨fun _ => state, 0, rfl, .nil r first _ _⟩
  | cons item rest ih =>
      rw [evaluated_cons, combineAll, Logged.value_bind]
      cases hcombine : (r.combine state (r.resolved base item first) first).value with
      | stop result => exact ⟨fun _ => state, 0, rfl, .stop rest hcombine⟩
      | next next =>
          obtain ⟨states, count, rfl, hfolds⟩ := ih next (first + 1)
          exact ⟨startingWith state states, count + 1, rfl, .cons hcombine hfolds⟩

/-! ## The first promised evaluation -/

/-- The first item whose evaluation against the state before it is promised.  The fold ends at
item `count`, so that no later item is evaluated in this way. -/
def firstPromised (r : Reducer ε ι κ σ ο) (first : Nat) (states : Nat → σ) (items : List ι)
    (count : Nat) : Option Nat :=
  (List.range (count + 1)).find? fun i =>
    items[i]?.any fun item => !(r.evaluate (states i) item (first + i)).value.isNow

/-- How many values have been combined when item `i` is evaluated: those of all items before it,
or only of those before the first promised one. -/
def combinedBefore (promised : Option Nat) (i : Nat) : Nat := promised.elim i (min i)

theorem combinedBefore_zero (promised : Option Nat) : combinedBefore promised 0 = 0 := by
  cases promised with
  | none => rfl
  | some p => exact Nat.zero_min p

theorem combinedBefore_succ (promised : Option Nat) (i : Nat) :
    combinedBefore (promised.map (· + 1)) (i + 1) = combinedBefore promised i + 1 := by
  cases promised with
  | none => rfl
  | some p => exact Nat.add_min_add_right i p 1

variable {first : Nat} {states : Nat → σ} {item : ι} {rest : List ι}

theorem firstPromised_nil (r : Reducer ε ι κ σ ο) (first : Nat) (states : Nat → σ)
    (count : Nat) : r.firstPromised first states [] count = none := by
  simp [firstPromised]

theorem firstPromised_of_later (count : Nat)
    (hlater : (r.evaluate (states 0) item first).value.isNow = false) :
    r.firstPromised first states (item :: rest) count = some 0 := by
  rw [firstPromised, List.range_succ_eq_map, List.find?_cons_of_pos]
  simp [hlater]

theorem firstPromised_stop_of_now
    (hnow : (r.evaluate (states 0) item first).value.isNow = true) :
    r.firstPromised first states (item :: rest) 0 = none := by
  simp [firstPromised, hnow]

theorem firstPromised_cons_of_now (count : Nat)
    (hnow : (r.evaluate (states 0) item first).value.isNow = true) :
    r.firstPromised first states (item :: rest) (count + 1) =
      (r.firstPromised (first + 1) (fun i => states (i + 1)) rest count).map (· + 1) := by
  have hindex : ∀ i, first + 1 + i = first + (i + 1) := Nat.succ_add_eq_add_succ first
  rw [firstPromised, List.range_succ_eq_map, List.find?_cons_of_neg (by simp [hnow]),
    List.find?_map, firstPromised]
  simp only [Function.comp_def, List.getElem?_cons_succ, Nat.succ_eq_add_one, hindex]

/-! ## The run -/

theorem folds_runFrom_of_later {state : σ} {promise : Promise ε κ}
    (hlater : (r.evaluate state item first).value = .later promise) (rest : List ι) :
    ∃ states count, states 0 = state ∧
      r.firstPromised first states (item :: rest) count = some 0 ∧
      r.Folds first (fun i => states (combinedBefore (some 0) i)) states (item :: rest) count
        (r.runFrom state first (item :: rest)).value.value := by
  have hvalues : ∀ item index,
      (r.evaluate state item index).value.value = r.resolved state item index := fun _ _ => rfl
  have hvalue := value_runFrom_of_later hlater hvalues rest
  obtain ⟨states, count, rfl, hfolds⟩ := r.folds_combineAll state state first (item :: rest)
  refine ⟨states, count, rfl, firstPromised_of_later count (by rw [hlater]; rfl), ?_⟩
  rw [hvalue]
  simpa [combinedBefore] using hfolds

theorem folds_runFrom (r : Reducer ε ι κ σ ο) (state : σ) (first : Nat) (items : List ι) :
    ∃ states count, states 0 = state ∧
      let promised := r.firstPromised first states items count
      r.Folds first (fun i => states (combinedBefore promised i)) states items count
          (r.runFrom state first items).value.value ∧
        ((r.runFrom state first items).value.isNow = true ↔ promised = none) := by
  induction items generalizing state first with
  | nil =>
      refine ⟨fun _ => state, 0, rfl, .nil r first _ _, ?_⟩
      rw [firstPromised_nil]
      exact iff_of_true rfl rfl
  | cons item rest ih =>
      cases hanswer : (r.evaluate state item first).value with
      | later promise =>
          obtain ⟨states, count, hstart, hpromised, hfolds⟩ := folds_runFrom_of_later hanswer rest
          refine ⟨states, count, hstart, ?_⟩
          dsimp only
          rw [hpromised]
          refine ⟨hfolds, ?_⟩
          rw [runFrom, Logged.value_bind, hanswer]
          exact iff_of_false Bool.false_ne_true (Option.some_ne_none 0)
      | now value =>
          have hnow : (r.evaluate state item first).value.isNow = true := by
            rw [hanswer]
            rfl
          have hresolved : r.resolved state item first = value := by
            rw [resolved, hanswer, Answer.value_now]
          rw [runFrom_of_now hanswer, Logged.value_bind, Logged.value_bind]
          cases hcombine : (r.combine state value first).value with
          | stop result =>
              refine ⟨fun _ => state, 0, rfl, .stop rest (hresolved ▸ hcombine), ?_⟩
              rw [firstPromised_stop_of_now hnow]
              exact iff_of_true rfl rfl
          | next next =>
              obtain ⟨states, count, rfl, hfolds, hisNow⟩ := ih next (first + 1)
              have hpromised : r.firstPromised first (startingWith state states) (item :: rest)
                  (count + 1) = (r.firstPromised (first + 1) states rest count).map (· + 1) :=
                firstPromised_cons_of_now count hnow
              refine ⟨startingWith state states, count + 1, rfl, ?_⟩
              dsimp only
              rw [hpromised]
              refine ⟨.cons ?_ ?_, ?_⟩
              · rw [combinedBefore_zero]
                exact hresolved ▸ hcombine
              · -- in the rest, counting starts one later for the states and for the promise
                simp only [combinedBefore_succ]
                exact hfolds
              · rw [Option.map_eq_none_iff]
                exact hisNow

def prompt (r : Reducer ε ι κ σ ο) : Reducer ε ι κ σ ο where
  evaluate state item index := do
    let answer ← r.evaluate state item index
    return .now answer.value
  combine := r.combine
  finish := r.finish

/-- A reduction resolves to a fold of its items up to the first exit, and finishes only without
one.  Item `i` is evaluated against the state reached after the items before it, or before the
first promised one; values are combined in order.  The result is there at once when no
evaluation was promised before the end.  It is that of the reduction without promises when no
value depends on the state. -/
theorem run_folds_in_order (r : Reducer ε ι κ σ ο) (initial : σ) (items : List ι) :
    (∃ states count, states 0 = initial ∧
      let promised := r.firstPromised 0 states items count
      r.Folds 0 (fun i => states (combinedBefore promised i)) states items count
          (r.run initial items).value.value ∧
        ((r.run initial items).value.isNow = true ↔ promised = none)) ∧
      ((∀ state state' item index, r.resolved state item index = r.resolved state' item index) →
        (r.run initial items).value.value = (r.prompt.run initial items).value.value) := by
  refine ⟨r.folds_runFrom initial 0 items, fun hsame => ?_⟩
  have hvalues : ∀ state item index,
      (r.evaluate state item index).value.value = r.resolved initial item index :=
    fun state item index => hsame state initial item index
  have hprompt : ∀ state item index,
      (r.prompt.evaluate state item index).value.value = r.resolved initial item index :=
    hvalues
  have hcombine : ∀ state values,
      r.prompt.combineAll state values = r.combineAll state values := by
    intro state values
    induction values generalizing state with
    | nil => rfl
    | cons value rest ih =>
        simp only [combineAll, ih]
        rfl
  rw [value_run _ hvalues, value_run _ hprompt, hcombine]

end SubjectRules.Reducer
