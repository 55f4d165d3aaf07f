import SubjectRules.Proofs.UpTo
import SubjectRules.Walk

/-!
# Sweeps

A sweep takes a step for every item of a list, in order, until a step ends in a match.
It is what the pass of a walk and the sorting of its awaited results have in common.
Its value is the first match or all that the steps leave; its log is that of the steps
up to and including the one with the match.
-/

namespace SubjectRules

variable {β γ δ : Type}

namespace Walk

variable {ε α : Type}

/-! ## Steps -/

namespace Step

def hit? (step : Step ε α β) : Option (FieldPath × α) :=
  match step.run.value with
  | .error hit => some hit
  | .ok _ => none

def left (step : Step ε α (List β)) : List β :=
  match step.run.value with
  | .error _ => []
  | .ok items => items

theorem hit?_of_error {step : Step ε α β} {hit : FieldPath × α}
    (h : step.run.value = .error hit) : step.hit? = some hit := by
  rw [hit?, h]

theorem hit?_of_ok {step : Step ε α β} {b : β} (h : step.run.value = .ok b) :
    step.hit? = none := by
  rw [hit?, h]

theorem left_of_ok {step : Step ε α (List β)} {items : List β}
    (h : step.run.value = .ok items) : step.left = items := by
  rw [left, h]

theorem value_run_bind (step : Step ε α β) (next : β → Step ε α γ) :
    (step >>= next).run.value = step.run.value >>= fun b => (next b).run.value := by
  rw [ExceptT.run_bind]
  cases h : step.run.value <;> simp [h] <;> rfl

theorem log_run_bind (step : Step ε α β) (next : β → Step ε α γ) :
    (step >>= next).run.log = step.run.log ++ match step.run.value with
      | .error _ => []
      | .ok b => (next b).run.log := by
  rw [ExceptT.run_bind]
  cases h : step.run.value <;> simp [h]

theorem lift_bind (x : Logged ε β) (next : β → Step ε α γ) :
    ((liftM x : Step ε α β) >>= next) =
      ((liftM x : Step ε α β) >>= fun _ => next x.value) := rfl

theorem lift_bind_congr {x : Logged ε β} {next next' : β → Step ε α γ}
    (h : next x.value = next' x.value) :
    ((liftM x : Step ε α β) >>= next) = ((liftM x : Step ε α β) >>= next') := by
  rw [lift_bind, h, ← lift_bind]

theorem value_lift_bind (x : Logged ε β) (next : β → Step ε α γ) :
    ((liftM x : Step ε α β) >>= next).run.value = (next x.value).run.value := rfl

theorem log_lift_bind (x : Logged ε β) (next : β → Step ε α γ) :
    ((liftM x : Step ε α β) >>= next).run.log = x.log ++ (next x.value).run.log := by
  have hlift : (liftM x : Step ε α β).run.log = x.log := List.append_nil x.log
  rw [log_run_bind, hlift]
  rfl

end Step

/-! ## Sweeps -/

/-- Takes a step for every item and joins what the steps leave. -/
def sweep (step : β → Step ε α (List γ)) : List β → Step ε α (List γ)
  | [] => return []
  | item :: rest => do
      let first ← step item
      let others ← sweep step rest
      return first ++ others

theorem sweep_append (step : β → Step ε α (List γ)) (items others : List β) :
    sweep step (items ++ others) = do
      let first ← sweep step items
      let second ← sweep step others
      return first ++ second := by
  induction items with
  | nil => simp [sweep]
  | cons item rest ih =>
      simp [sweep, ih, -bind_pure_comp, List.append_assoc]

theorem sweep_congr {step step' : β → Step ε α (List γ)} {items : List β}
    (hsteps : ∀ item ∈ items, step item = step' item) :
    sweep step items = sweep step' items := by
  induction items with
  | nil => rfl
  | cons item rest ih =>
      have hrest := ih fun other hother => hsteps other (List.mem_cons_of_mem _ hother)
      rw [sweep, sweep, hsteps item List.mem_cons_self, hrest]

theorem value_sweep (step : β → Step ε α (List γ)) (items : List β) :
    (sweep step items).run.value =
      match items.findSome? fun item => (step item).hit? with
      | some hit => .error hit
      | none => .ok (items.flatMap fun item => (step item).left) := by
  induction items with
  | nil => rfl
  | cons item rest ih =>
      simp only [sweep, Step.value_run_bind, ih, List.findSome?_cons, List.flatMap_cons]
      cases hitem : (step item).run.value with
      | error hit =>
          rw [Step.hit?_of_error hitem]
          rfl
      | ok first =>
          rw [Step.hit?_of_ok hitem, Step.left_of_ok hitem]
          cases rest.findSome? fun item => (step item).hit? <;> rfl

theorem log_sweep (step : β → Step ε α (List γ)) (items : List β) :
    (sweep step items).run.log =
      (upTo (fun item => (step item).hit?.isSome) items).flatMap fun item =>
        (step item).run.log := by
  induction items with
  | nil => rfl
  | cons item rest ih =>
      simp only [sweep, Step.log_run_bind, upTo]
      cases hitem : (step item).run.value with
      | error hit => simp [Step.hit?_of_error hitem]
      | ok first =>
          simp only [Step.hit?_of_ok hitem, Option.isSome_none, Bool.false_eq_true, if_false,
            List.flatMap_cons, ih]
          cases (sweep step rest).run.value <;> simp

end Walk

end SubjectRules
