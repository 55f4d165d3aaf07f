/-!
# Lists up to a stop

What is done in order until something stops it is done to the items up to the first that
stops, that one included.
-/

namespace SubjectRules

variable {β γ : Type}

/-- The items up to and including the first that stops. -/
def upTo (stops : β → Bool) : List β → List β
  | [] => []
  | item :: rest => if stops item then [item] else item :: upTo stops rest

theorem mem_upTo_cons_self (stops : β → Bool) (item : β) (rest : List β) :
    item ∈ upTo stops (item :: rest) := by
  rw [upTo]
  split <;> exact List.mem_cons_self

theorem upTo_prefix_self (stops : β → Bool) (items : List β) : upTo stops items <+: items := by
  induction items with
  | nil => exact List.prefix_refl _
  | cons item rest ih =>
      rw [upTo]
      split
      · exact ⟨rest, rfl⟩
      · exact (List.prefix_cons_inj item).mpr ih

theorem upTo_eq_self {stops : β → Bool} {items : List β}
    (hstops : ∀ item ∈ items, stops item = false) : upTo stops items = items := by
  induction items with
  | nil => rfl
  | cons item rest ih =>
      have hrest := ih fun other hother => hstops other (List.mem_cons_of_mem _ hother)
      simp [upTo, hstops item List.mem_cons_self, hrest]

theorem upTo_append_cons {stops : β → Bool} {before : List β} {stop : β} (after : List β)
    (hbefore : ∀ item ∈ before, stops item = false) (hstop : stops stop = true) :
    upTo stops (before ++ stop :: after) = before ++ [stop] := by
  induction before with
  | nil => exact if_pos hstop
  | cons item rest ih =>
      have hrest := ih fun other hother => hbefore other (List.mem_cons_of_mem _ hother)
      simp [upTo, hbefore item List.mem_cons_self, hrest]

theorem lt_length_upTo_iff {stops : β → Bool} {items : List β} {i : Nat} (hi : i < items.length) :
    i < (upTo stops items).length ↔ ∀ item ∈ items.take i, stops item = false := by
  induction items generalizing i with
  | nil => exact absurd hi (Nat.not_lt_zero i)
  | cons item rest ih =>
      rw [upTo]
      cases i with
      | zero => split <;> simp
      | succ i =>
          have hrest := ih (Nat.lt_of_succ_lt_succ hi)
          cases hstop : stops item <;> simp [hstop, hrest]

theorem filterMap_upTo {stops : β → Bool} {stops' : γ → Bool} {f : β → Option γ}
    (hstops : ∀ item, stops item = (f item).any stops') (items : List β) :
    (upTo stops items).filterMap f = upTo stops' (items.filterMap f) := by
  induction items with
  | nil => rfl
  | cons item rest ih =>
      cases hf : f item with
      | none => simp [upTo, hstops, hf, ih]
      | some image => cases himage : stops' image <;> simp [upTo, hstops, hf, himage, ih]

end SubjectRules
