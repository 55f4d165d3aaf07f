import SubjectRules.Proofs.Answer
import SubjectRules.Proofs.Reduce

/-!
# Morphisms of reducers

Items, values, states and results may be mapped so that every step of one reducer becomes a
step of another.  Then whole runs are mapped as well: the same items are evaluated in the same
order, the same answers are promised, and only what the run resolves to changes.
-/

namespace SubjectRules

variable {ε ι ι' κ κ' σ σ' ο ο' : Type}

def Flow.map (onResult : ο → ο') (onState : σ → σ') : Flow ο σ → Flow ο' σ'
  | .next state => .next (onState state)
  | .stop result => .stop (onResult result)

namespace Reducer

structure Morphism (r : Reducer ε ι κ σ ο) (r' : Reducer ε ι' κ' σ' ο') (onItem : ι → ι')
    (onValue : κ → κ') (onState : σ → σ') (onResult : ο → ο') : Prop where
  evaluate : ∀ state item index,
    r'.evaluate (onState state) (onItem item) index =
      Answer.map onValue <$> r.evaluate state item index
  combine : ∀ state value index,
    r'.combine (onState state) (onValue value) index =
      Flow.map onResult onState <$> r.combine state value index
  finish : ∀ state, r'.finish (onState state) = onResult (r.finish state)

namespace Morphism

variable {r : Reducer ε ι κ σ ο} {r' : Reducer ε ι' κ' σ' ο'} {onItem : ι → ι'}
  {onValue : κ → κ'} {onState : σ → σ'} {onResult : ο → ο'}

theorem combineAll (h : Morphism r r' onItem onValue onState onResult) (state : σ)
    (values : List (κ × Nat)) :
    r'.combineAll (onState state) (values.map (Prod.map onValue id)) =
      onResult <$> r.combineAll state values := by
  induction values generalizing state with
  | nil => exact congrArg pure (h.finish state)
  | cons value rest ih =>
      obtain ⟨value, index⟩ := value
      rw [List.map_cons, Prod.map_apply, id, Reducer.combineAll, Reducer.combineAll, h.combine,
        map_bind, bind_map_left]
      congr 1
      funext flow
      cases flow with
      | next state => exact ih state
      | stop result => rfl

theorem dispatch (h : Morphism r r' onItem onValue onState onResult) (state : σ) (index : Nat)
    (items : List ι) :
    r'.dispatch (onState state) index (items.map onItem) =
      List.map (Promise.map onValue) <$> r.dispatch state index items := by
  induction items generalizing index with
  | nil => rfl
  | cons item rest ih =>
      rw [List.map_cons, Reducer.dispatch, Reducer.dispatch, h.evaluate, ih]
      simp [Answer.promise_map]

theorem runFrom (h : Morphism r r' onItem onValue onState onResult) (state : σ) (index : Nat)
    (items : List ι) :
    r'.runFrom (onState state) index (items.map onItem) =
      Answer.map onResult <$> r.runFrom state index items := by
  induction items generalizing state index with
  | nil =>
      rw [List.map_nil, Reducer.runFrom, Reducer.runFrom, h.finish]
      rfl
  | cons item rest ih =>
      have hmapped : (r'.evaluate (onState state) (onItem item) index).value =
          (r.evaluate state item index).value.map onValue := by
        rw [h.evaluate, Logged.value_map]
      cases hanswer : (r.evaluate state item index).value with
      | now value =>
          rw [hanswer] at hmapped
          rw [List.map_cons, runFrom_of_now hmapped, runFrom_of_now hanswer, h.evaluate,
            h.combine]
          simp only [map_bind, bind_map_left]
          congr 2
          funext _
          congr 1
          funext flow
          cases flow with
          | next state => exact ih state (index + 1)
          | stop result => rfl
      | later first =>
          -- all that is left is dispatched, then combined behind one promise
          rw [hanswer] at hmapped
          have hdispatch := h.dispatch state index (item :: rest)
          rw [List.map_cons] at hdispatch ⊢
          rw [runFrom_of_later hmapped, runFrom_of_later hanswer, hdispatch]
          simp only [map_bind, bind_map_left, Promise.all_map, Promise.mapLogged_map,
            List.zipIdx_map, h.combineAll, ← Promise.map_mapLogged]
          rfl

theorem run (h : Morphism r r' onItem onValue onState onResult) (initial : σ)
    (items : List ι) :
    r'.run (onState initial) (items.map onItem) = Answer.map onResult <$> r.run initial items :=
  h.runFrom initial 0 items

end Morphism

end Reducer

end SubjectRules
