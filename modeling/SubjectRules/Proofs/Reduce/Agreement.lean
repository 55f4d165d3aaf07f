import Mathlib.Tactic.IntervalCases
import SubjectRules.Proofs.Reduce.Fold

/-!
# What promises change

Two reductions may differ in nothing but which of their evaluations are promised.  They combine
the values in the same order, and yet an item may come to different values: behind the first
promised evaluation items are evaluated against the state reached before it.  This is all that
sets the two apart.  They resolve to the same when every item that is evaluated after different
numbers of combined values comes to the same value in both.
-/

namespace SubjectRules.Reducer

variable {ε ε' ι κ σ ο : Type} {r : Reducer ε ι κ σ ο} {r' : Reducer ε' ι κ σ ο}

/-- The two reductions differ at most in when the values of their items are there. -/
structure SameButPromises (r : Reducer ε ι κ σ ο) (r' : Reducer ε' ι κ σ ο) : Prop where
  resolved : ∀ state item index, r.resolved state item index = r'.resolved state item index
  combine : ∀ state value index,
    (r.combine state value index).value = (r'.combine state value index).value
  finish : r.finish = r'.finish

/-- The states that a run goes through, `count` values being combined before it ends. -/
structure Runs (r : Reducer ε ι κ σ ο) (initial : σ) (items : List ι) (states : Nat → σ)
    (count : Nat) : Prop where
  start : states 0 = initial
  folds : r.Folds 0 (fun i => states (combinedBefore (r.firstPromised 0 states items count) i))
    states items count (r.run initial items).value.value

theorem exists_runs (r : Reducer ε ι κ σ ο) (initial : σ) (items : List ι) :
    ∃ states count, r.Runs initial items states count := by
  obtain ⟨states, count, hstart, hfolds, -⟩ := r.folds_runFrom initial 0 items
  exact ⟨states, count, hstart, hfolds⟩

/-! ## Two folds -/

theorem Folds.eq_finish_of_nil {first count : Nat} {against states : Nat → σ} {result : ο}
    (hfolds : r.Folds first against states [] count result) : result = r.finish (states 0) := by
  rcases hfolds.ends with ⟨rfl, hresult⟩ | ⟨_, hitem, -⟩
  · exact hresult
  · cases hitem

theorem Folds.result_eq (hsame : r.SameButPromises r') {items : List ι} {first count count' : Nat}
    {against against' states states' : Nat → σ} {result result' : ο}
    (hfolds : r.Folds first against states items count result)
    (hfolds' : r'.Folds first against' states' items count' result')
    (hstart : states 0 = states' 0)
    (hvalues : ∀ i item, i ≤ count → i ≤ count' → (∀ j ≤ i, states j = states' j) →
      items[i]? = some item →
      r.resolved (against i) item (first + i) = r'.resolved (against' i) item (first + i)) :
    result = result' := by
  induction items generalizing first against against' states states' count count' with
  | nil => rw [hfolds.eq_finish_of_nil, hfolds'.eq_finish_of_nil, hsame.finish, hstart]
  | cons item rest ih =>
      have hvalue : r.resolved (against 0) item first = r'.resolved (against' 0) item first := by
        refine hvalues 0 item (Nat.zero_le _) (Nat.zero_le _) (fun j hj => ?_) rfl
        rw [Nat.le_zero.mp hj, hstart]
      have hcombine : (r.combine (states 0) (r.resolved (against 0) item first) first).value =
          (r'.combine (states' 0) (r'.resolved (against' 0) item first) first).value := by
        rw [hstart, hvalue]
        exact hsame.combine _ _ _
      rcases hfolds.cons_cases with ⟨rfl, hstop⟩ | ⟨count, rfl, hnext, hrest⟩ <;>
        rcases hfolds'.cons_cases with ⟨rfl, hstop'⟩ | ⟨count', rfl, hnext', hrest'⟩
      · rw [hstop, hstop'] at hcombine
        exact Flow.stop.inj hcombine
      · rw [hstop, hnext'] at hcombine
        cases hcombine
      · rw [hnext, hstop'] at hcombine
        cases hcombine
      · rw [hnext, hnext'] at hcombine
        have hsecond : states 1 = states' 1 := Flow.next.inj hcombine
        refine ih hrest hrest' hsecond fun i other hi hi' hstates hother => ?_
        have hall : ∀ j ≤ i + 1, states j = states' j := by
          intro j hj
          cases j with
          | zero => exact hstart
          | succ j => exact hstates j (Nat.le_of_succ_le_succ hj)
        rw [Nat.add_right_comm]
        exact hvalues (i + 1) other (Nat.succ_le_succ hi) (Nat.succ_le_succ hi') hall hother

/-! ## Two runs -/

theorem combinedBefore_le (promised : Option Nat) (i : Nat) : combinedBefore promised i ≤ i := by
  cases promised with
  | none => exact Nat.le_refl i
  | some p => exact Nat.min_le_left i p

/-- Two reductions that differ at most in their promises resolve to the same as soon as every item
that both reach is evaluated after as many combined values in the two runs or comes to the same
value in them.  That is so when the first promised evaluation is at the same item, whatever the
values depend on, and when no value depends on the state. -/
theorem run_eq_of_sameButPromises (hsame : r.SameButPromises r') (initial : σ) (items : List ι) :
    (∃ states count, r.Runs initial items states count) ∧
      (∃ states count, r'.Runs initial items states count) ∧
      ∀ states count states' count', r.Runs initial items states count →
        r'.Runs initial items states' count' →
        let promised := r.firstPromised 0 states items count
        let promised' := r'.firstPromised 0 states' items count'
        ((∀ i item, i ≤ count → i ≤ count' → items[i]? = some item →
            combinedBefore promised i = combinedBefore promised' i ∨
              r.resolved (states (combinedBefore promised i)) item i =
                r.resolved (states' (combinedBefore promised' i)) item i) →
          (r.run initial items).value.value = (r'.run initial items).value.value) ∧
        (promised = promised' →
          (r.run initial items).value.value = (r'.run initial items).value.value) ∧
        ((∀ state state' item index, r.resolved state item index = r.resolved state' item index) →
          (r.run initial items).value.value = (r'.run initial items).value.value) := by
  refine ⟨r.exists_runs initial items, r'.exists_runs initial items, ?_⟩
  intro states count states' count' hruns hruns' promised promised'
  have hmain : (∀ i item, i ≤ count → i ≤ count' → items[i]? = some item →
      combinedBefore promised i = combinedBefore promised' i ∨
        r.resolved (states (combinedBefore promised i)) item i =
          r.resolved (states' (combinedBefore promised' i)) item i) →
      (r.run initial items).value.value = (r'.run initial items).value.value := by
    intro hitems
    have hstart : states 0 = states' 0 := hruns.start.trans hruns'.start.symm
    refine Folds.result_eq hsame hruns.folds hruns'.folds hstart ?_
    intro i item hi hi' hstates hitem
    rw [Nat.zero_add, ← hsame.resolved]
    rcases hitems i item hi hi' hitem with hbefore | hvalue
    · have hagainst := hstates _ (combinedBefore_le promised i)
      dsimp only [promised, promised'] at hbefore hagainst
      rw [← hbefore, hagainst]
    · exact hvalue
  refine ⟨hmain, fun hpromised => ?_, fun hfixed => ?_⟩
  · exact hmain fun i _ _ _ _ => .inl (by rw [hpromised])
  · exact hmain fun i item _ _ _ => .inr (hfixed _ _ item i)

/-! ## A total that items see -/

/-- Every item is added to the total that it sees, and that to the total.  The items with a number
of polls are promised. -/
def runningTotal (polls : Nat → Option Nat) : Reducer Unit Nat Nat Nat Nat where
  evaluate total item index := pure <|
    match polls index with
    | none => .now (total + item)
    | some n => .later (.after n (.settled [()] (total + item)))
  combine total value _ := pure (.next (total + value))
  finish := id

theorem sameButPromises_runningTotal (polls polls' : Nat → Option Nat) :
    (runningTotal polls).SameButPromises (runningTotal polls') where
  resolved total item index := by
    simp only [resolved, runningTotal, Logged.value_pure]
    cases polls index <;> cases polls' index <;> simp [Promise.value]
  combine _ _ _ := rfl
  finish := rfl

/-- The first evaluation is promised in one run and the second in the other, but both items behind
see a total of zero. -/
theorem run_eq_of_sameButPromises_late :
    let early := runningTotal fun index => if index = 0 then some 2 else none
    let late := runningTotal fun index => if index = 1 then some 0 else none
    early.SameButPromises late ∧
      (early.run 0 [0, 5, 7]).value.value = (late.run 0 [0, 5, 7]).value.value := by
  intro early late
  have hsame : early.SameButPromises late := sameButPromises_runningTotal _ _
  let states : Nat → Nat := fun n => [0, 0, 5, 12].getD n 0
  have hearly : early.Runs 0 [0, 5, 7] states 3 := by
    refine ⟨rfl, fun i hi => ?_, .inl ⟨rfl, rfl⟩⟩
    interval_cases i <;> exact ⟨_, rfl, rfl⟩
  have hlate : late.Runs 0 [0, 5, 7] states 3 := by
    refine ⟨rfl, fun i hi => ?_, .inl ⟨rfl, rfl⟩⟩
    interval_cases i <;> exact ⟨_, rfl, rfl⟩
  obtain ⟨-, -, hruns⟩ := run_eq_of_sameButPromises hsame 0 [0, 5, 7]
  refine ⟨hsame, (hruns _ _ _ _ hearly hlate).1 fun i item hi _ hitem => .inr ?_⟩
  interval_cases i <;> rfl

/-- Behind a promised evaluation an item does not see what that comes to. -/
theorem not_run_independent_of_promises :
    ¬ ∀ r r' : Reducer Unit Nat Nat Nat Nat, r.SameButPromises r' →
      ∀ initial items, (r.run initial items).value.value = (r'.run initial items).value.value := by
  intro hclaim
  have htotals := hclaim _ _ (sameButPromises_runningTotal (fun _ => none) fun _ => some 0) 0 [1, 2]
  exact absurd htotals (by decide)

end SubjectRules.Reducer
