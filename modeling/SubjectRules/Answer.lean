import SubjectRules.Promise

/-!
# Answers that may be deferred

A rule answers at once or promises an answer.  Steps on an answer that is there run
at once; steps on a promised one run, in order, while it is awaited.
-/

namespace SubjectRules

inductive Answer (ε α : Type) where
  | now (value : α)
  | later (promise : Promise ε α)
  deriving Repr

namespace Answer

variable {ε α β : Type}

def isNow : Answer ε α → Bool
  | .now _ => true
  | .later _ => false

/-- The answer as a promise; one that is there settles at the first poll. -/
def promise : Answer ε α → Promise ε α
  | .now a => .settled [] a
  | .later p => p

def value (answer : Answer ε α) : α := answer.promise.value

def awaitLog (answer : Answer ε α) : List ε := answer.promise.log

def awaited (call : Logged ε (Answer ε α)) : Promise ε α :=
  call.value.promise.prepend call.log

def andThen (answer : Answer ε α) (next : α → Logged ε (Answer ε β)) : Logged ε (Answer ε β) :=
  match answer with
  | .now a => next a
  | .later p => pure (.later (p.bind fun a => awaited (next a)))

def mapLogged (answer : Answer ε α) (f : α → Logged ε β) : Logged ε (Answer ε β) :=
  match answer with
  | .now a => Answer.now <$> f a
  | .later p => pure (.later (p.mapLogged f))

def map (f : α → β) : Answer ε α → Answer ε β
  | .now a => .now (f a)
  | .later p => .later (p.map f)

def describe (show_ : α → String) : Answer ε α → String
  | .now a => "Ready(" ++ show_ a ++ ")"
  | .later _ => "Pending(..)"

@[simp] theorem value_now (a : α) : (Answer.now a : Answer ε α).value = a := rfl

@[simp] theorem value_later (p : Promise ε α) : (Answer.later p).value = p.value := rfl

@[simp] theorem value_map (f : α → β) (answer : Answer ε α) :
    (answer.map f).value = f answer.value := by
  cases answer <;> simp [map]

@[simp] theorem value_andThen (answer : Answer ε α) (next : α → Logged ε (Answer ε β)) :
    (answer.andThen next).value.value = (next answer.value).value.value := by
  cases answer with
  | now a => rfl
  | later p => simp [andThen, awaited, value, promise]

@[simp] theorem value_mapLogged (answer : Answer ε α) (f : α → Logged ε β) :
    (answer.mapLogged f).value.value = (f answer.value).value := by
  cases answer <;> simp [mapLogged]

end Answer

end SubjectRules
