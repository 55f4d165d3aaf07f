/-!
# Steps that may fail

Two steps in a row give a result when both do, and fail with the first failure.
-/

namespace Except

variable {ε α β : Type} {x : Except ε α} {f : α → Except ε β}

theorem bind_eq_ok_iff {b : β} : x >>= f = .ok b ↔ ∃ a, x = .ok a ∧ f a = .ok b := by
  cases x with
  | error e => simp [bind, Except.bind]
  | ok a => simp [bind, Except.bind]

theorem bind_pure_eq_ok_iff {wrap : α → β} {b : β} :
    (x >>= fun a => pure (wrap a)) = .ok b ↔ ∃ a, x = .ok a ∧ wrap a = b := by
  rw [bind_eq_ok_iff]
  simp [pure, Except.pure]

theorem exists_bind_pure_eq_ok_iff {wrap : α → β} :
    (∃ b, (x >>= fun a => pure (wrap a)) = .ok b) ↔ ∃ a, x = .ok a := by
  simp only [bind_pure_eq_ok_iff]
  constructor
  · rintro ⟨_, a, ha, -⟩
    exact ⟨a, ha⟩
  · rintro ⟨a, ha⟩
    exact ⟨_, a, ha, rfl⟩

theorem bind_eq_error_iff {e : ε} :
    x >>= f = .error e ↔ x = .error e ∨ ∃ a, x = .ok a ∧ f a = .error e := by
  cases x with
  | error other => simp [bind, Except.bind]
  | ok a => simp [bind, Except.bind]

theorem eq_ok_of_toOption {a : α} (ha : x.toOption = some a) : x = .ok a := by
  cases x with
  | error e => cases ha
  | ok value => exact congrArg ok (Option.some.inj ha)

end Except
