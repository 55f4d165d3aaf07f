import SubjectRules.Proofs.Promise
import SubjectRules.Answer

/-!
# Events of calls that may defer

A call that may defer logs events at once, and more while its answer is awaited.  Going on
with a step moves the events of the step to where the first answer is there.
-/

namespace SubjectRules.Answer

variable {ε α β γ : Type}

@[simp] theorem isNow_now (a : α) : (Answer.now a : Answer ε α).isNow = true := rfl

@[simp] theorem isNow_later (p : Promise ε α) : (Answer.later p).isNow = false := rfl

theorem eq_now_of_isNow {answer : Answer ε α} (h : answer.isNow = true) :
    ∃ a, answer = .now a := by
  cases answer with
  | now a => exact ⟨a, rfl⟩
  | later promise => cases h

theorem promise_map (f : α → β) (answer : Answer ε α) :
    (answer.map f).promise = answer.promise.map f := by
  cases answer <;> rfl

@[simp] theorem isNow_map (f : α → β) (answer : Answer ε α) :
    (answer.map f).isNow = answer.isNow := by
  cases answer <;> rfl

@[simp] theorem awaitLog_map (f : α → β) (answer : Answer ε α) :
    (answer.map f).awaitLog = answer.awaitLog := by
  rw [awaitLog, promise_map, Promise.log_eq_flatten_rounds, Promise.rounds_map,
    ← Promise.log_eq_flatten_rounds, awaitLog]

theorem map_id : (map id : Answer ε α → Answer ε α) = id := by
  funext answer
  cases answer with
  | now a => rfl
  | later p => exact congrArg later p.map_id

theorem map_map (f : α → β) (g : β → γ) (answer : Answer ε α) :
    (answer.map f).map g = answer.map fun a => g (f a) := by
  cases answer with
  | now a => rfl
  | later p => exact congrArg later (Promise.map_map f g p)

theorem log_awaited (call : Logged ε (Answer ε α)) :
    (awaited call).log = call.log ++ call.value.awaitLog :=
  Promise.log_prepend call.log call.value.promise

theorem log_andThen (answer : Answer ε α) (next : α → Logged ε (Answer ε β)) :
    ∃ before after, before ++ after = (awaited (next answer.value)).log ∧
      (answer.andThen next).log = before ∧
      (answer.andThen next).value.awaitLog = answer.awaitLog ++ after := by
  cases answer with
  | now a => exact ⟨(next a).log, (next a).value.awaitLog, (log_awaited (next a)).symm, rfl, rfl⟩
  | later p =>
      refine ⟨[], (awaited (next p.value)).log, rfl, rfl, ?_⟩
      exact Promise.log_bind (fun a => awaited (next a)) p

theorem log_awaited_andThen (answer : Answer ε α) (next : α → Logged ε (Answer ε β)) :
    (awaited (answer.andThen next)).log =
      answer.awaitLog ++ (awaited (next answer.value)).log := by
  cases answer with
  | now a => rfl
  | later p =>
      rw [log_awaited]
      exact Promise.log_bind (fun a => awaited (next a)) p

theorem log_awaited_mapLogged (answer : Answer ε α) (f : α → Logged ε β) :
    (awaited (answer.mapLogged f)).log = answer.awaitLog ++ (f answer.value).log := by
  rw [log_awaited]
  cases answer with
  | now a =>
      change (Answer.now <$> f a).log ++ [] = [] ++ (f a).log
      rw [Logged.log_map, List.append_nil, List.nil_append]
  | later p => exact Promise.log_mapLogged f p

end SubjectRules.Answer
