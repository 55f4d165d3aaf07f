import Mathlib.Data.List.Basic
import SubjectRules.Proofs.Answer
import SubjectRules.Proofs.UpTo

/-!
# Chains of steps

A chain goes on with one step after another.  As long as answers are there, the next step is
taken at once.  The steps behind the first promised answer are taken while it is awaited, each
once, in order, with what the one before resolves to.
-/

namespace SubjectRules.Answer

variable {ε α : Type}

def chain (answer : Answer ε α) (steps : List (α → Logged ε (Answer ε α))) :
    Logged ε (Answer ε α) :=
  steps.foldlM andThen answer

/-- The calls of the steps of a chain, each with what the one before it resolves to. -/
def calls : List (α → Logged ε (Answer ε α)) → α → List (Logged ε (Answer ε α))
  | [], _ => []
  | step :: rest, a => step a :: calls rest (step a).value.value

theorem chain_cons (answer : Answer ε α) (step : α → Logged ε (Answer ε α))
    (rest : List (α → Logged ε (Answer ε α))) :
    answer.chain (step :: rest) = answer.andThen step >>= fun next => next.chain rest :=
  List.foldlM_cons

theorem getElem?_calls (steps : List (α → Logged ε (Answer ε α))) (a : α) (i : Nat) :
    (calls steps a)[i]? = steps[i]?.map fun step =>
      step ((steps.take i).foldl (fun a step => (step a).value.value) a) := by
  induction steps generalizing a i with
  | nil => rfl
  | cons step rest ih =>
      cases i with
      | zero => rfl
      | succ i => exact ih (step a).value.value i

theorem value_chain (answer : Answer ε α) (steps : List (α → Logged ε (Answer ε α))) :
    (answer.chain steps).value.value =
      steps.foldl (fun a step => (step a).value.value) answer.value := by
  induction steps generalizing answer with
  | nil => rfl
  | cons step rest ih => rw [chain_cons, Logged.value_bind, ih, value_andThen, List.foldl_cons]

theorem chain_later (p : Promise ε α) (steps : List (α → Logged ε (Answer ε α))) :
    ((Answer.later p).chain steps).log = [] ∧
      ((Answer.later p).chain steps).value.isNow = false := by
  induction steps generalizing p with
  | nil => exact ⟨rfl, rfl⟩
  | cons step rest ih => exact ih (p.bind fun a => awaited (step a))

theorem log_chain_now (a : α) (steps : List (α → Logged ε (Answer ε α))) :
    ((Answer.now a).chain steps).log =
      (upTo (fun call => !call.value.isNow) (calls steps a)).flatMap Logged.log := by
  induction steps generalizing a with
  | nil => rfl
  | cons step rest ih =>
      have hchain : ((Answer.now a).chain (step :: rest)).log =
          (step a).log ++ ((step a).value.chain rest).log := rfl
      rw [hchain, calls, upTo]
      cases hanswer : (step a).value with
      | now next => simp [ih]
      | later p => simp [(chain_later p rest).1]

theorem isNow_chain_now (a : α) (steps : List (α → Logged ε (Answer ε α))) :
    ((Answer.now a).chain steps).value.isNow = true ↔
      ∀ call ∈ calls steps a, call.value.isNow = true := by
  induction steps generalizing a with
  | nil => exact iff_of_true rfl (List.forall_mem_nil _)
  | cons step rest ih =>
      have hchain : ((Answer.now a).chain (step :: rest)).value =
          ((step a).value.chain rest).value := rfl
      rw [hchain, calls, List.forall_mem_cons]
      cases hanswer : (step a).value with
      | now next => simp [ih]
      | later p => simp [(chain_later p rest).2]

theorem log_awaited_chain (answer : Answer ε α) (steps : List (α → Logged ε (Answer ε α))) :
    (awaited (answer.chain steps)).log =
      answer.awaitLog ++ (calls steps answer.value).flatMap fun call => (awaited call).log := by
  induction steps generalizing answer with
  | nil => simp [chain, calls, log_awaited]
  | cons step rest ih =>
      have hstep := ih (answer.andThen step).value
      rw [log_awaited, value_andThen] at hstep
      rw [chain_cons, log_awaited, Logged.log_bind, Logged.value_bind, List.append_assoc, hstep,
        ← List.append_assoc, ← log_awaited, log_awaited_andThen, calls, List.flatMap_cons,
        List.append_assoc]

theorem awaitLog_chain_now (a : α) (steps : List (α → Logged ε (Answer ε α))) :
    let taken := upTo (fun call => !call.value.isNow) (calls steps a)
    ((Answer.now a).chain steps).value.awaitLog =
      (taken.flatMap fun call => call.value.awaitLog) ++
        ((calls steps a).drop taken.length).flatMap fun call => (awaited call).log := by
  induction steps generalizing a with
  | nil => rfl
  | cons step rest ih =>
      have hchain : ((Answer.now a).chain (step :: rest)).value =
          ((step a).value.chain rest).value := rfl
      rw [hchain, calls, upTo]
      cases hanswer : (step a).value with
      | now next => simpa [hanswer, awaitLog, promise, Promise.log] using ih next
      | later p =>
          have hawaited := log_awaited_chain (.later p) rest
          rw [log_awaited, (chain_later p rest).1, List.nil_append] at hawaited
          simp [hanswer, hawaited]

/-- Up to the first promised answer steps are taken at once, and the others while it is awaited. -/
theorem chain_now_of_first {a : α} {steps : List (α → Logged ε (Answer ε α))}
    {prompt rest : List (Logged ε (Answer ε α))} {first : Logged ε (Answer ε α)}
    (hcalls : calls steps a = prompt ++ first :: rest)
    (hprompt : ∀ call ∈ prompt, call.value.isNow = true) (hfirst : first.value.isNow = false) :
    ((Answer.now a).chain steps).log = (prompt ++ [first]).flatMap Logged.log ∧
      ((Answer.now a).chain steps).value.awaitLog =
        first.value.awaitLog ++ rest.flatMap fun call => (awaited call).log := by
  have hlog := log_chain_now a steps
  have hawait := awaitLog_chain_now a steps
  have htaken : upTo (fun call => !call.value.isNow) (calls steps a) = prompt ++ [first] := by
    rw [hcalls]
    exact upTo_append_cons rest (by simpa using hprompt) (by simp [hfirst])
  have hsilent : (prompt.flatMap fun call => call.value.awaitLog) = [] := by
    refine List.flatMap_eq_nil_iff.mpr fun call hcall => ?_
    obtain ⟨next, hnext⟩ := eq_now_of_isNow (hprompt call hcall)
    rw [hnext]
    rfl
  rw [htaken] at hlog hawait
  refine ⟨hlog, hawait.trans ?_⟩
  rw [hcalls, List.append_cons prompt first rest, List.drop_left, List.flatMap_append, hsilent]
  simp

end SubjectRules.Answer
