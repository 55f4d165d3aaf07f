import SubjectRules.Proofs.Answer
import SubjectRules.Proofs.Reduce.Fold
import SubjectRules.Proofs.UpTo

/-!
# The calls of a reduction

While evaluations answer at once, an item is evaluated and its value combined before the next
item.  At the first promised evaluation the order changes: the items that are left are evaluated
one after another, all against the state reached, and nothing is combined any more until all of
them are there.  Then their values are combined in order.  An exit is the last call of all.
-/

namespace SubjectRules.Reducer

variable {ε ι κ σ ο : Type} {r : Reducer ε ι κ σ ο}

inductive Call (ι κ σ : Type) where
  | evaluate (state : σ) (item : ι) (index : Nat)
  | combine (state : σ) (value : κ) (index : Nat)

def Call.isEvaluate : Call ι κ σ → Bool
  | .evaluate .. => true
  | .combine .. => false

def Call.isCombine : Call ι κ σ → Bool
  | .evaluate .. => false
  | .combine .. => true

def callLog (r : Reducer ε ι κ σ ο) : Call ι κ σ → List ε
  | .evaluate state item index => (r.evaluate state item index).log
  | .combine state value index => (r.combine state value index).log

structure Turn (ι σ : Type) where
  item : ι
  index : Nat
  against : σ
  state : σ

def turns (first : Nat) (against states : Nat → σ) (items : List ι) : List (Turn ι σ) :=
  items.zipIdx.map fun (item, i) => ⟨item, first + i, against i, states i⟩

theorem turns_cons (first : Nat) (against states : Nat → σ) (item : ι) (rest : List ι) :
    turns first against states (item :: rest) =
      ⟨item, first, against 0, states 0⟩ ::
        turns (first + 1) (fun i => against (i + 1)) (fun i => states (i + 1)) rest := by
  rw [turns, List.zipIdx_cons, List.map_cons, List.zipIdx_succ, List.map_map, turns]
  refine congrArg _ (List.map_congr_left fun ⟨item, i⟩ _ => ?_)
  have hindex : first + 1 + i = first + (i + 1) := Nat.succ_add_eq_add_succ first i
  dsimp only [Function.comp_apply]
  rw [hindex]

def evaluation (turn : Turn ι σ) : Call ι κ σ := .evaluate turn.against turn.item turn.index

def combination (r : Reducer ε ι κ σ ο) (turn : Turn ι σ) : Call ι κ σ :=
  .combine turn.state (r.resolved turn.against turn.item turn.index) turn.index

def promise (r : Reducer ε ι κ σ ο) (turn : Turn ι σ) : Promise ε κ :=
  (r.evaluate turn.against turn.item turn.index).value.promise

def alternating (r : Reducer ε ι κ σ ο) (turns : List (Turn ι σ)) : List (Call ι κ σ) :=
  turns.flatMap fun turn => [evaluation turn, r.combination turn]

/-- The calls before the answer is given.  With an evaluation promised, item `p` and all after it
are evaluated only. -/
def callsAtOnce (r : Reducer ε ι κ σ ο) (promised : Option Nat) (count : Nat)
    (turns : List (Turn ι σ)) : List (Call ι κ σ) :=
  match promised with
  | none => r.alternating (turns.take (count + 1))
  | some p => r.alternating (turns.take p) ++ (turns.drop p).map evaluation

def callsAwaiting (r : Reducer ε ι κ σ ο) (promised : Option Nat) (count : Nat)
    (turns : List (Turn ι σ)) : List (Call ι κ σ) :=
  match promised with
  | none => []
  | some p => ((turns.take (count + 1)).drop p).map r.combination

def awaited (r : Reducer ε ι κ σ ο) (promised : Option Nat) (turns : List (Turn ι σ)) :
    List (Promise ε κ) :=
  match promised with
  | none => []
  | some p => (turns.drop p).map r.promise

/-! ## One turn more -/

section Cons

variable (r) (promised : Option Nat) (count : Nat) (turn : Turn ι σ) (turns : List (Turn ι σ))

theorem callsAtOnce_cons :
    r.callsAtOnce (promised.map (· + 1)) (count + 1) (turn :: turns) =
      evaluation turn :: r.combination turn :: r.callsAtOnce promised count turns := by
  cases promised <;> simp [callsAtOnce, alternating]

theorem callsAwaiting_cons :
    r.callsAwaiting (promised.map (· + 1)) (count + 1) (turn :: turns) =
      r.callsAwaiting promised count turns := by
  cases promised <;> simp [callsAwaiting]

theorem awaited_cons :
    r.awaited (promised.map (· + 1)) (turn :: turns) = r.awaited promised turns := by
  cases promised <;> simp [awaited]

end Cons

/-! ## Evaluations against one state -/

theorem log_dispatch (r : Reducer ε ι κ σ ο) (states : Nat → σ) (state : σ) (first : Nat)
    (items : List ι) :
    (r.dispatch state first items).log =
      ((turns first (fun _ => state) states items).map evaluation).flatMap r.callLog := by
  induction items generalizing first states with
  | nil => rfl
  | cons item rest ih =>
      rw [turns_cons, List.map_cons, List.flatMap_cons, ← ih]
      simp [dispatch, callLog, evaluation]

theorem value_dispatch_eq_map (r : Reducer ε ι κ σ ο) (states : Nat → σ) (state : σ)
    (first : Nat) (items : List ι) :
    (r.dispatch state first items).value =
      (turns first (fun _ => state) states items).map r.promise := by
  induction items generalizing first states with
  | nil => rfl
  | cons item rest ih =>
      rw [turns_cons, List.map_cons, ← ih]
      simp [dispatch, promise]

theorem log_combineAll {base : σ} {first : Nat} {states : Nat → σ} {items : List ι} {count : Nat}
    {result : ο} (hfolds : r.Folds first (fun _ => base) states items count result) :
    (r.combineAll (states 0) (evaluated (r.resolved base) first items)).log =
      (((turns first (fun _ => base) states items).take (count + 1)).map r.combination).flatMap
        r.callLog := by
  induction items generalizing first states count with
  | nil => rfl
  | cons item rest ih =>
      rw [evaluated_cons, combineAll, Logged.log_bind, turns_cons]
      rcases hfolds.cons_cases with ⟨rfl, hstop⟩ | ⟨count, rfl, hnext, hrest⟩
      · simp [hstop, callLog, combination]
      · simp [hnext, callLog, combination, ih hrest]

/-! ## The run -/

theorem calls_runFrom_of_later {first : Nat} {states : Nat → σ} {item : ι} {rest : List ι}
    {count : Nat} {result : ο} {promise : Promise ε κ}
    (hlater : (r.evaluate (states 0) item first).value = .later promise)
    (hfolds : r.Folds first (fun _ => states 0) states (item :: rest) count result) :
    let turns := turns first (fun _ => states 0) states (item :: rest)
    (r.runFrom (states 0) first (item :: rest)).log =
        (r.callsAtOnce (some 0) count turns).flatMap r.callLog ∧
      (r.runFrom (states 0) first (item :: rest)).value.awaitLog =
        (Promise.all (r.awaited (some 0) turns)).log ++
          (r.callsAwaiting (some 0) count turns).flatMap r.callLog := by
  rw [runFrom_of_later hlater]
  constructor
  · rw [Logged.log_bind, r.log_dispatch states]
    simp [callsAtOnce, alternating]
  · have hvalues : ((r.dispatch (states 0) first (item :: rest)).value.map
        Promise.value).zipIdx first = evaluated (r.resolved (states 0)) first (item :: rest) :=
      value_dispatch (fun _ _ => rfl) first (item :: rest)
    rw [Logged.value_bind, Logged.value_pure, Answer.awaitLog, Answer.promise,
      Promise.log_mapLogged, Promise.value_all, hvalues, log_combineAll hfolds,
      r.value_dispatch_eq_map states]
    rfl

theorem calls_runFrom {first : Nat} {states : Nat → σ} {items : List ι} {count : Nat}
    {result : ο} {promised : Option Nat}
    (hpromised : r.firstPromised first states items count = promised)
    (hfolds : r.Folds first (fun i => states (combinedBefore promised i)) states items count
      result) :
    let turns := turns first (fun i => states (combinedBefore promised i)) states items
    (r.runFrom (states 0) first items).log =
        (r.callsAtOnce promised count turns).flatMap r.callLog ∧
      (r.runFrom (states 0) first items).value.awaitLog =
        (Promise.all (r.awaited promised turns)).log ++
          (r.callsAwaiting promised count turns).flatMap r.callLog := by
  induction items generalizing first states count promised with
  | nil =>
      obtain rfl := hpromised
      rw [hfolds.count_of_nil, firstPromised_nil]
      exact ⟨rfl, rfl⟩
  | cons item rest ih =>
      cases hanswer : (r.evaluate (states 0) item first).value with
      | later promise =>
          rw [firstPromised_of_later count (by rw [hanswer]; rfl)] at hpromised
          obtain rfl := hpromised
          have hagainst : (fun i => states (combinedBefore (some 0) i)) = fun _ => states 0 := by
            simp [combinedBefore]
          rw [hagainst] at hfolds ⊢
          exact calls_runFrom_of_later hanswer hfolds
      | now value =>
          have hnow : (r.evaluate (states 0) item first).value.isNow = true := by
            rw [hanswer]
            rfl
          have hresolved : r.resolved (states 0) item first = value := by
            rw [resolved, hanswer, Answer.value_now]
          rw [runFrom_of_now hanswer]
          simp only [Logged.value_bind, Logged.log_bind]
          rcases hfolds.cons_cases with ⟨rfl, hstop⟩ | ⟨count, rfl, hnext, hrest⟩
          · rw [firstPromised_stop_of_now hnow] at hpromised
            obtain rfl := hpromised
            rw [combinedBefore_zero, hresolved] at hstop
            rw [hstop, turns_cons]
            refine ⟨?_, rfl⟩
            simp [callsAtOnce, alternating, callLog, evaluation, combination, combinedBefore,
              hresolved]
          · -- the rest is a run of its own, its states and promised index counted from there
            rw [firstPromised_cons_of_now count hnow] at hpromised
            obtain rfl := hpromised
            simp only [combinedBefore_succ] at hrest
            rw [combinedBefore_zero, hresolved] at hnext
            obtain ⟨hlog, hawait⟩ := @ih (first + 1) (fun i => states (i + 1)) count _ rfl hrest
            rw [hnext, turns_cons, callsAtOnce_cons, callsAwaiting_cons, awaited_cons]
            simp only [combinedBefore_succ, combinedBefore_zero]
            refine ⟨?_, hawait⟩
            simp [hlog, callLog, evaluation, combination, hresolved]

/-! ## The order of the calls -/

theorem filter_isEvaluate_evaluations (turns : List (Turn ι σ)) :
    (turns.map evaluation : List (Call ι κ σ)).filter Call.isEvaluate = turns.map evaluation :=
  List.filter_eq_self.mpr (List.forall_mem_map.mpr fun _ _ => rfl)

theorem filter_isCombine_evaluations (turns : List (Turn ι σ)) :
    (turns.map evaluation : List (Call ι κ σ)).filter Call.isCombine = [] :=
  List.filter_eq_nil_iff.mpr (List.forall_mem_map.mpr fun _ _ => Bool.false_ne_true)

theorem filter_isCombine_combinations (r : Reducer ε ι κ σ ο) (turns : List (Turn ι σ)) :
    (turns.map r.combination).filter Call.isCombine = turns.map r.combination :=
  List.filter_eq_self.mpr (List.forall_mem_map.mpr fun _ _ => rfl)

theorem filter_isEvaluate_alternating (r : Reducer ε ι κ σ ο) (turns : List (Turn ι σ)) :
    (r.alternating turns).filter Call.isEvaluate = turns.map evaluation := by
  rw [alternating, List.filter_flatMap, List.map_eq_flatMap]
  rfl

theorem filter_isCombine_alternating (r : Reducer ε ι κ σ ο) (turns : List (Turn ι σ)) :
    (r.alternating turns).filter Call.isCombine = turns.map r.combination := by
  rw [alternating, List.filter_flatMap, List.map_eq_flatMap]
  rfl

theorem filter_isEvaluate_callsAtOnce (r : Reducer ε ι κ σ ο) (promised : Option Nat)
    (count : Nat) (turns : List (Turn ι σ)) :
    (r.callsAtOnce promised count turns).filter Call.isEvaluate =
      (promised.elim (turns.take (count + 1)) fun _ => turns).map evaluation := by
  cases promised with
  | none => exact r.filter_isEvaluate_alternating _
  | some p =>
      rw [callsAtOnce, List.filter_append, filter_isEvaluate_alternating,
        filter_isEvaluate_evaluations, ← List.map_append, List.take_append_drop]
      rfl

theorem filter_isCombine_calls (r : Reducer ε ι κ σ ο) {promised : Option Nat} {count : Nat}
    (hpromised : ∀ p, promised = some p → p ≤ count) (turns : List (Turn ι σ)) :
    (r.callsAtOnce promised count turns ++ r.callsAwaiting promised count turns).filter
        Call.isCombine = (turns.take (count + 1)).map r.combination := by
  cases promised with
  | none =>
      rw [callsAwaiting, List.append_nil]
      exact r.filter_isCombine_alternating _
  | some p =>
      have hp : min p (count + 1) = p := by
        have := hpromised p rfl
        omega
      have hfront : turns.take p = (turns.take (count + 1)).take p := by
        rw [List.take_take, hp]
      rw [callsAtOnce, callsAwaiting, List.filter_append, List.filter_append,
        filter_isCombine_alternating, filter_isCombine_evaluations,
        filter_isCombine_combinations, List.append_nil, hfront, ← List.map_append,
        List.take_append_drop]

theorem isCombine_of_mem_callsAwaiting {promised : Option Nat} {count : Nat}
    {turns : List (Turn ι σ)} {call : Call ι κ σ}
    (hcall : call ∈ r.callsAwaiting promised count turns) : call.isCombine = true := by
  cases promised with
  | none => cases hcall
  | some p =>
      obtain ⟨turn, -, rfl⟩ := List.mem_map.mp hcall
      rfl

theorem le_of_firstPromised {first : Nat} {states : Nat → σ} {items : List ι} {count p : Nat}
    (hpromised : r.firstPromised first states items count = some p) : p ≤ count := by
  have hmem := List.mem_of_find?_eq_some hpromised
  rw [List.mem_range] at hmem
  omega

/-- As long as evaluations answer at once, each item is evaluated and its value combined before
the next.  From the first promised evaluation on, the other items are evaluated in order against
the state reached, and none is combined before the answer is awaited.  Then the promises are
polled, and besides only values are combined: from the first promised one, in order, up to the
exit.  So every item is evaluated at most once and every value combined at most once, in order. -/
theorem run_alternates_until_promised (r : Reducer ε ι κ σ ο) (initial : σ) (items : List ι) :
    ∃ states count, states 0 = initial ∧
      let promised := r.firstPromised 0 states items count
      let against := fun i => states (combinedBefore promised i)
      let turns := turns 0 against states items
      let atOnce := r.callsAtOnce promised count turns
      let awaiting := r.callsAwaiting promised count turns
      r.Folds 0 against states items count (r.run initial items).value.value ∧
        (r.run initial items).log = atOnce.flatMap r.callLog ∧
        (r.run initial items).value.awaitLog =
          (Promise.all (r.awaited promised turns)).log ++ awaiting.flatMap r.callLog ∧
        atOnce.filter Call.isEvaluate =
          (promised.elim (turns.take (count + 1)) fun _ => turns).map evaluation ∧
        (∀ call ∈ awaiting, call.isCombine = true) ∧
        (atOnce ++ awaiting).filter Call.isCombine =
          (turns.take (count + 1)).map r.combination := by
  obtain ⟨states, count, rfl, hfolds, -⟩ := r.folds_runFrom initial 0 items
  obtain ⟨hlog, hawait⟩ := calls_runFrom rfl hfolds
  refine ⟨states, count, rfl, hfolds, hlog, hawait, ?_, ?_, ?_⟩
  · exact r.filter_isEvaluate_callsAtOnce _ count _
  · exact fun call => isCombine_of_mem_callsAwaiting
  · exact r.filter_isCombine_calls (fun p => le_of_firstPromised) _

/-- Adds up numbers until one is zero; each item says how many polls its number takes.  Every
call is logged. -/
def recordedSum : Reducer (Call (Nat × Nat) Nat Nat) (Nat × Nat) Nat Nat Nat where
  evaluate sum item index := do
    Logged.emit (.evaluate sum item index)
    match item with
    | (number, 0) => return .now number
    | (number, polls) => return .later (.after polls (.settled [] number))
  combine sum number index := do
    Logged.emit (.combine sum number index)
    return if number = 0 then .stop sum else .next (sum + number)
  finish := id

example :
    let run := recordedSum.run 0 [(1, 0), (2, 3), (3, 0), (0, 1), (4, 0)]
    run.log = [.evaluate 0 (1, 0) 0, .combine 0 1 0, .evaluate 1 (2, 3) 1, .evaluate 1 (3, 0) 2,
        .evaluate 1 (0, 1) 3, .evaluate 1 (4, 0) 4] ∧
      run.value.awaitLog = [.combine 1 2 1, .combine 3 3 2, .combine 6 0 3] := ⟨rfl, rfl⟩

end SubjectRules.Reducer

namespace SubjectRules

variable {ε ι κ σ ο β : Type}

/-! ## Reductions that ask their items -/

def Flow.isStop : Flow ο σ → Bool
  | .next _ => false
  | .stop _ => true

/-- A call that asks items in order.  Its answer is there at once when those up to the first that
settles the outcome answer at once, and then it has asked these and no others. -/
structure AsksUpTo (call : Logged ε (Answer ε β)) (ask : ι → Logged ε (Answer ε κ))
    (settles : ι → Bool) (items : List ι) : Prop where
  isNow : call.value.isNow = true ↔
    ∀ item ∈ upTo settles items, (ask item).value.isNow = true
  log : call.value.isNow = true →
    call.log = (upTo settles items).flatMap fun item => (ask item).log

namespace AsksUpTo

variable {ask : ι → Logged ε (Answer ε κ)} {settles : ι → Bool} {item : ι}
  {call : Logged ε (Answer ε β)}

theorem nil (ask : ι → Logged ε (Answer ε κ)) (settles : ι → Bool) (result : β) :
    AsksUpTo (pure (.now result)) ask settles [] where
  isNow := iff_of_true rfl (List.forall_mem_nil _)
  log _ := rfl

theorem later (rest : List ι) (hlater : (ask item).value.isNow = false)
    (hcall : call.value.isNow = false) : AsksUpTo call ask settles (item :: rest) where
  isNow := by
    refine iff_of_false (by simp [hcall]) fun hall => ?_
    have hnow := hall item (mem_upTo_cons_self settles item rest)
    simp [hlater] at hnow
  log hnow := by simp [hcall] at hnow

theorem stop (rest : List ι) (hnow : (ask item).value.isNow = true)
    (hsettles : settles item = true) (result : β) :
    AsksUpTo (do let _ ← ask item; return .now result) ask settles (item :: rest) where
  isNow := iff_of_true rfl (by simpa [upTo, hsettles] using hnow)
  log _ := by simp [upTo, hsettles]

theorem next {rest : List ι} (hnow : (ask item).value.isNow = true)
    (hsettles : settles item = false) (hrest : AsksUpTo call ask settles rest) :
    AsksUpTo (do let _ ← ask item; call) ask settles (item :: rest) where
  isNow := by simpa [upTo, hsettles, hnow] using hrest.isNow
  log hcall := by simp [upTo, hsettles, hrest.log hcall]

end AsksUpTo

theorem Reducer.asksUpTo_runFrom {r : Reducer ε ι κ σ ο} {ask : ι → Logged ε (Answer ε κ)}
    {step : σ → κ → Flow ο σ} {settles : ι → Bool}
    (hevaluate : ∀ state item index, r.evaluate state item index = ask item)
    (hcombine : ∀ state value index, r.combine state value index = pure (step state value))
    (hsettles : ∀ state item, (step state (ask item).value.value).isStop = settles item)
    (state : σ) (index : Nat) (items : List ι) :
    AsksUpTo (r.runFrom state index items) ask settles items := by
  induction items generalizing state index with
  | nil => exact .nil ask settles (r.finish state)
  | cons item rest ih =>
      cases hanswer : (ask item).value with
      | later promise =>
          refine .later rest (by rw [hanswer]; rfl) ?_
          rw [runFrom, Logged.value_bind, hevaluate, hanswer]
          rfl
      | now value =>
          have hnow : (ask item).value.isNow = true := by
            rw [hanswer]
            rfl
          have hitem := hsettles state item
          rw [hanswer, Answer.value_now] at hitem
          rw [← hevaluate state item index] at hanswer
          rw [runFrom_of_now hanswer, hevaluate, hcombine, pure_bind]
          cases hstep : step state value with
          | stop result => exact .stop rest hnow (by rw [← hitem, hstep]; rfl) result
          | next next => exact .next hnow (by rw [← hitem, hstep]; rfl) (ih next (index + 1))

end SubjectRules
