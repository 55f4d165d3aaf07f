/-!
# Computations that log events

A logged computation is a value together with the events that producing it caused,
in order.  Rules are opaque to the library; what they do besides answering is seen
through their events, so the order of calls is a property of the log.
-/

namespace SubjectRules

structure Logged (ε α : Type) where
  value : α
  log : List ε := []
  deriving Repr

namespace Logged

variable {ε α β : Type}

protected def pure (value : α) : Logged ε α := ⟨value, []⟩

protected def bind (x : Logged ε α) (f : α → Logged ε β) : Logged ε β :=
  ⟨(f x.value).value, x.log ++ (f x.value).log⟩

instance : Monad (Logged ε) where
  pure := Logged.pure
  bind := Logged.bind

def emit (event : ε) : Logged ε Unit := ⟨(), [event]⟩

@[ext] theorem ext {x y : Logged ε α} (value : x.value = y.value) (log : x.log = y.log) :
    x = y := by
  cases x
  cases y
  simp_all

@[simp] theorem value_pure (a : α) : (pure a : Logged ε α).value = a := rfl

@[simp] theorem log_pure (a : α) : (pure a : Logged ε α).log = [] := rfl

@[simp] theorem value_bind (x : Logged ε α) (f : α → Logged ε β) :
    (x >>= f).value = (f x.value).value := rfl

@[simp] theorem log_bind (x : Logged ε α) (f : α → Logged ε β) :
    (x >>= f).log = x.log ++ (f x.value).log := rfl

instance : LawfulMonad (Logged ε) :=
  LawfulMonad.mk' _
    (fun x => ext rfl (List.append_nil x.log))
    (fun _ _ => ext rfl (List.nil_append _))
    (fun _ _ _ => ext rfl (List.append_assoc ..))

@[simp] theorem value_map (f : α → β) (x : Logged ε α) : (f <$> x).value = f x.value := rfl

@[simp] theorem log_map (f : α → β) (x : Logged ε α) : (f <$> x).log = x.log :=
  List.append_nil x.log

end Logged

end SubjectRules
