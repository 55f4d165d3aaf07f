import SubjectRules.Proofs.Answer.Chain

/-!
# Pipelines

A pipeline goes on from an answer by steps of both kinds, each of which may give another type of
value than it takes.  When its steps run does not depend on the values: without them a pipeline is
the chain of the calls of its steps.
-/

namespace SubjectRules.Answer

variable {ε α β γ δ : Type}

/-! ## Calls without their values -/

def unvalued (call : Logged ε (Answer ε α)) : Logged ε (Answer ε Unit) :=
  map (fun _ => ()) <$> call

@[simp] theorem log_unvalued (call : Logged ε (Answer ε α)) : (unvalued call).log = call.log :=
  Logged.log_map _ call

@[simp] theorem isNow_unvalued (call : Logged ε (Answer ε α)) :
    (unvalued call).value.isNow = call.value.isNow :=
  isNow_map _ call.value

@[simp] theorem awaitLog_unvalued (call : Logged ε (Answer ε α)) :
    (unvalued call).value.awaitLog = call.value.awaitLog :=
  awaitLog_map _ call.value

theorem awaited_unvalued (call : Logged ε (Answer ε α)) :
    awaited (unvalued call) = (awaited call).map fun _ => () := by
  rw [awaited, awaited, log_unvalued, Promise.map_prepend]
  exact congrArg (Promise.prepend call.log) (promise_map _ call.value)

theorem unvalued_andThen (answer : Answer ε α) (next : α → Logged ε (Answer ε β)) :
    unvalued (answer.andThen next) =
      (answer.map fun _ => ()).andThen fun _ => unvalued (next answer.value) := by
  cases answer with
  | now a => rfl
  | later p =>
      refine congrArg (fun promise : Promise ε Unit => pure (later promise)) ?_
      calc (p.bind fun a => awaited (next a)).map (fun _ => ())
          = p.bind fun a => (awaited (next a)).map fun _ => () := p.map_bind _ _
        _ = p.bind fun _ => (awaited (next p.value)).map fun _ => () := p.bind_eq_bind_value _
        _ = p.bind fun _ => awaited (unvalued (next p.value)) := by rw [awaited_unvalued]
        _ = (p.map fun _ => ()).bind fun _ => awaited (unvalued (next p.value)) :=
            (p.bind_map (fun _ => ()) fun _ => awaited (unvalued (next p.value))).symm

theorem calls_const (called : List (Logged ε (Answer ε Unit))) (a : Unit) :
    calls (called.map fun call _ => call) a = called := by
  induction called with
  | nil => rfl
  | cons call rest ih => exact congrArg (call :: ·) ih

/-! ## Steps -/

inductive Step (ε α β : Type) where
  | map (f : α → Logged ε β)
  | andThen (f : α → Logged ε (Answer ε β))

namespace Step

def call : Step ε α β → α → Logged ε (Answer ε β)
  | .map f, a => Answer.now <$> f a
  | .andThen f, a => f a

def after : Step ε α β → Answer ε α → Logged ε (Answer ε β)
  | .map f, answer => answer.mapLogged f
  | .andThen f, answer => answer.andThen f

theorem after_eq_andThen (step : Step ε α β) (answer : Answer ε α) :
    step.after answer = answer.andThen step.call := by
  cases step with
  | andThen f => rfl
  | map f =>
      cases answer with
      | now a => rfl
      | later p =>
          have hcall : (fun a => Promise.settled (f a).log (f a).value) =
              fun a => awaited ((Step.map f).call a) := by
            funext a
            simp [call, awaited, promise, Promise.prepend]
          exact congrArg (fun next => pure (later (p.bind next))) hcall

end Step

/-! ## Pipelines -/

/-- Steps in order, each of which takes what the one before gives. -/
inductive Pipeline (ε : Type) : Type → Type → Type 1 where
  | nil {α : Type} : Pipeline ε α α
  | cons {α β γ : Type} (step : Step ε α β) (rest : Pipeline ε β γ) : Pipeline ε α γ

namespace Pipeline

def size : {α γ : Type} → Pipeline ε α γ → Nat
  | _, _, .nil => 0
  | _, _, .cons _ rest => rest.size + 1

def append : {α β γ : Type} → Pipeline ε α β → Pipeline ε β γ → Pipeline ε α γ
  | _, _, _, .nil, last => last
  | _, _, _, .cons step rest, last => .cons step (rest.append last)

def run : {α γ : Type} → Pipeline ε α γ → Answer ε α → Logged ε (Answer ε γ)
  | _, _, .nil, answer => pure answer
  | _, _, .cons step rest, answer => do rest.run (← step.after answer)

def output : {α γ : Type} → Pipeline ε α γ → α → γ
  | _, _, .nil, a => a
  | _, _, .cons step rest, a => rest.output (step.call a).value.value

/-- The calls of the steps, each with what the ones before resolve to. -/
def calls : {α γ : Type} → Pipeline ε α γ → α → List (Logged ε (Answer ε Unit))
  | _, _, .nil, _ => []
  | _, _, .cons step rest, a => unvalued (step.call a) :: rest.calls (step.call a).value.value

theorem value_run (p : Pipeline ε α γ) (answer : Answer ε α) :
    (p.run answer).value.value = p.output answer.value := by
  induction p with
  | nil => rfl
  | cons step rest ih =>
      rw [run, Logged.value_bind, ih, step.after_eq_andThen, value_andThen, output]

theorem length_calls (p : Pipeline ε α γ) (a : α) : (p.calls a).length = p.size := by
  induction p with
  | nil => rfl
  | cons step rest ih => rw [calls, List.length_cons, ih, size]

theorem getElem?_calls_append (first : Pipeline ε α β) (step : Step ε β δ)
    (rest : Pipeline ε δ γ) (a : α) :
    ((first.append (.cons step rest)).calls a)[first.size]? =
      some (unvalued (step.call (first.output a))) := by
  induction first with
  | nil => rfl
  | cons head tail ih => exact ih step (head.call a).value.value

theorem unvalued_run (p : Pipeline ε α γ) (answer : Answer ε α) :
    unvalued (p.run answer) =
      (answer.map fun _ => ()).chain ((p.calls answer.value).map fun call _ => call) := by
  induction p with
  | nil => rfl
  | cons step rest ih =>
      have hafter : (answer.map fun _ => ()).andThen (fun _ => unvalued (step.call answer.value)) =
          unvalued (step.after answer) := by
        rw [step.after_eq_andThen, unvalued_andThen]
      have hvalue : (step.after answer).value.value = (step.call answer.value).value.value := by
        rw [step.after_eq_andThen, value_andThen]
      have hrest := ih (step.after answer).value
      rw [hvalue] at hrest
      rw [calls, List.map_cons, chain_cons, hafter]
      have hvalues := congrArg Logged.value hrest
      have hlogs := congrArg Logged.log hrest
      rw [log_unvalued] at hlogs
      refine Logged.ext hvalues ?_
      rw [log_unvalued, run, Logged.log_bind, Logged.log_bind, log_unvalued, hlogs]
      rfl

theorem log_awaited_run (p : Pipeline ε α γ) (answer : Answer ε α) :
    (awaited (p.run answer)).log =
      answer.awaitLog ++ (p.calls answer.value).flatMap fun call => (awaited call).log := by
  have hchain := log_awaited_chain (answer.map fun _ => ())
    ((p.calls answer.value).map fun call _ => call)
  rw [← unvalued_run, log_awaited, log_unvalued, awaitLog_unvalued, ← log_awaited, awaitLog_map,
    calls_const] at hchain
  exact hchain

theorem run_later (p : Pipeline ε α γ) (promise : Promise ε α) :
    (p.run (.later promise)).log = [] ∧ (p.run (.later promise)).value.isNow = false := by
  rw [← log_unvalued, ← isNow_unvalued, unvalued_run]
  exact chain_later (promise.map fun _ => ()) _

theorem isNow_run (p : Pipeline ε α γ) (answer : Answer ε α) :
    (p.run answer).value.isNow = true ↔
      answer.isNow = true ∧ ∀ call ∈ p.calls answer.value, call.value.isNow = true := by
  cases answer with
  | later promise => simp [(p.run_later promise).2]
  | now a =>
      have hchain := isNow_chain_now () ((p.calls a).map fun call _ => call)
      rw [calls_const] at hchain
      rw [← isNow_unvalued, unvalued_run, isNow_now, eq_self, true_and]
      exact hchain

theorem exists_count_run (p : Pipeline ε α γ) (answer : Answer ε α) :
    let called := p.calls answer.value
    ∃ count ≤ p.size,
      (∀ i < p.size, i < count ↔
        answer.isNow = true ∧ ∀ call ∈ called.take i, call.value.isNow = true) ∧
      (p.run answer).log = (called.take count).flatMap Logged.log ∧
      (p.run answer).value.awaitLog =
        answer.awaitLog ++ ((called.take count).flatMap fun call => call.value.awaitLog) ++
          (called.drop count).flatMap fun call => (awaited call).log := by
  intro called
  have hsize : called.length = p.size := p.length_calls answer.value
  cases answer with
  | later promise =>
      have hlog := p.log_awaited_run (.later promise)
      rw [log_awaited, (p.run_later promise).1, List.nil_append] at hlog
      refine ⟨0, Nat.zero_le _, by simp, (p.run_later promise).1, ?_⟩
      rw [hlog, List.take_zero, List.flatMap_nil, List.append_nil, List.drop_zero]
  | now a =>
      let taken := upTo (fun call => !call.value.isNow) called
      have htake : taken = called.take taken.length :=
        List.prefix_iff_eq_take.mp (upTo_prefix_self _ called)
      have hlog := log_chain_now () (called.map fun call _ => call)
      have hawait := awaitLog_chain_now () (called.map fun call _ => call)
      have hchain : (Answer.now ()).chain (called.map fun call _ => call) =
          unvalued (p.run (.now a)) := (p.unvalued_run (.now a)).symm
      rw [calls_const, hchain, log_unvalued] at hlog
      rw [calls_const, hchain, awaitLog_unvalued] at hawait
      refine ⟨taken.length, ?_, ?_, ?_, ?_⟩
      · rw [← hsize]
        exact (upTo_prefix_self _ called).length_le
      · intro i hi
        rw [lt_length_upTo_iff (hsize ▸ hi)]
        simp
      · rw [← htake]
        exact hlog
      · rw [← htake]
        exact hawait

/-- A pipeline resolves to its steps applied from left to right.  Every step runs once, with what
the ones before it resolve to, and in order.  The result is there at once when the first answer is
and no step defers.  A step runs while the pipeline is put together when the first answer is there
and no step before it defers; the others run while the result is awaited. -/
theorem run_takes_each_step_once (p : Pipeline ε α γ) (answer : Answer ε α) :
    let result := p.run answer
    let called := p.calls answer.value
    result.value.value = p.output answer.value ∧
      (called.length = p.size ∧
        ∀ (β δ : Type) (first : Pipeline ε α β) (step : Step ε β δ) (rest : Pipeline ε δ γ),
          p = first.append (.cons step rest) →
            called[first.size]? = some (unvalued (step.call (first.output answer.value)))) ∧
      (awaited result).log =
        answer.awaitLog ++ (called.flatMap fun call => (awaited call).log) ∧
      (result.value.isNow = true ↔
        answer.isNow = true ∧ ∀ call ∈ called, call.value.isNow = true) ∧
      ∃ count ≤ p.size,
        (∀ i < p.size, i < count ↔
          answer.isNow = true ∧ ∀ call ∈ called.take i, call.value.isNow = true) ∧
        result.log = (called.take count).flatMap Logged.log ∧
        result.value.awaitLog =
          answer.awaitLog ++ ((called.take count).flatMap fun call => call.value.awaitLog) ++
            (called.drop count).flatMap fun call => (awaited call).log := by
  intro result called
  refine ⟨p.value_run answer, ⟨p.length_calls answer.value, ?_⟩, p.log_awaited_run answer,
    p.isNow_run answer, p.exists_count_run answer⟩
  rintro β δ first step rest rfl
  exact getElem?_calls_append first step rest answer.value

end Pipeline

end SubjectRules.Answer
