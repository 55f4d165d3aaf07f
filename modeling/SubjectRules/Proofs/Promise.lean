import SubjectRules.Promise

/-!
# Rounds of polling

A promise is polled in rounds.  Promises that are awaited together are polled side by
side, so that the events of one round come before those of the next.  Mapping the values
moves no event, so it may be done to each promise or to all that they settle with.
-/

namespace SubjectRules.Promise

variable {ε α α' β β' γ : Type}

def rounds : Promise ε α → List (List ε)
  | .settled log _ => [log]
  | .waiting log rest => log :: rest.rounds

theorem log_eq_flatten_rounds (p : Promise ε α) : p.log = p.rounds.flatten := by
  induction p with
  | settled events a => simp [log, rounds]
  | waiting events rest ih => simp [log, rounds, ih]

def beside : List (List ε) → List (List ε) → List (List ε)
  | [], others => others
  | rounds, [] => rounds
  | round :: rounds, other :: others => (round ++ other) :: beside rounds others

@[simp] theorem rounds_map (f : α → β) (p : Promise ε α) : (p.map f).rounds = p.rounds := by
  induction p with
  | settled events a => exact congrArg (fun log => [log]) (List.append_nil events)
  | waiting events rest ih => exact congrArg (events :: ·) ih

theorem rounds_both (p : Promise ε α) (q : Promise ε β) :
    (p.both q).rounds = beside p.rounds q.rounds := by
  induction p generalizing q with
  | settled log a =>
      cases q with
      | settled other b => rfl
      | waiting other q => simp [both, rounds, beside]
  | waiting log p ih =>
      cases q with
      | settled other b =>
          cases hrounds : p.rounds <;> simp [both, rounds, beside, hrounds]
      | waiting other q => simp [both, rounds, beside, ih]

theorem rounds_all_cons (p : Promise ε α) (rest : List (Promise ε α)) :
    (all (p :: rest)).rounds = beside p.rounds (all rest).rounds := by
  rw [all, rounds_map, rounds_both]

/-- A promise that settles at once without an event changes nothing in the rounds. -/
theorem rounds_all_settled (a : α) (rest : List (Promise ε α)) :
    (all (.settled [] a :: rest)).rounds = (all rest).rounds := by
  rw [rounds_all_cons]
  cases all rest <;> simp [rounds, beside]

/-! ## Going on -/

theorem prepend_prepend (first second : List ε) (p : Promise ε α) :
    (p.prepend second).prepend first = p.prepend (first ++ second) := by
  cases p <;> simp [prepend]

theorem bind_prepend (events : List ε) (p : Promise ε α) (next : α → Promise ε β) :
    (p.prepend events).bind next = (p.bind next).prepend events := by
  cases p with
  | settled log a => exact (prepend_prepend events log (next a)).symm
  | waiting log rest => rfl

theorem bind_assoc (p : Promise ε α) (next : α → Promise ε β) (last : β → Promise ε γ) :
    (p.bind next).bind last = p.bind fun a => (next a).bind last := by
  induction p with
  | settled log a => exact bind_prepend log (next a) last
  | waiting log rest ih => exact congrArg (waiting log) ih

theorem bind_eq_bind_value (p : Promise ε α) (next : α → Promise ε β) :
    p.bind next = p.bind fun _ => next p.value := by
  induction p with
  | settled log a => rfl
  | waiting log rest ih => exact congrArg (waiting log) ih

/-! ## Mapping -/

@[simp] theorem map_settled (f : α → β) (log : List ε) (a : α) :
    (settled log a).map f = settled log (f a) :=
  congrArg (settled · (f a)) (List.append_nil log)

@[simp] theorem map_waiting (f : α → β) (log : List ε) (rest : Promise ε α) :
    (waiting log rest).map f = waiting log (rest.map f) := rfl

theorem map_id (p : Promise ε α) : p.map id = p := by
  induction p with
  | settled log a => exact map_settled id log a
  | waiting log rest ih => exact congrArg (waiting log) ih

@[simp] theorem map_map (f : α → β) (g : β → γ) (p : Promise ε α) :
    (p.map f).map g = p.map fun a => g (f a) :=
  bind_assoc p _ _

theorem mapLogged_map (f : α → β) (g : β → Logged ε γ) (p : Promise ε α) :
    (p.map f).mapLogged g = p.mapLogged fun a => g (f a) :=
  bind_assoc p _ _

theorem map_mapLogged (f : α → Logged ε β) (g : β → γ) (p : Promise ε α) :
    (p.mapLogged f).map g = p.mapLogged fun a => g <$> f a :=
  bind_assoc p _ _

theorem map_bind (p : Promise ε α) (next : α → Promise ε β) (f : β → γ) :
    (p.bind next).map f = p.bind fun a => (next a).map f :=
  bind_assoc p next _

theorem bind_map (f : α → β) (p : Promise ε α) (next : β → Promise ε γ) :
    (p.map f).bind next = p.bind fun a => next (f a) := by
  induction p with
  | settled log a => rw [map_settled, bind, bind]
  | waiting log rest ih => exact congrArg (waiting log) ih

theorem map_prepend (f : α → β) (events : List ε) (p : Promise ε α) :
    (p.prepend events).map f = (p.map f).prepend events :=
  bind_prepend events p _

theorem both_map (f : α → α') (g : β → β') (p : Promise ε α) (q : Promise ε β) :
    (p.map f).both (q.map g) = (p.both q).map (Prod.map f g) := by
  induction p generalizing q with
  | settled log a => cases q <;> simp [both]
  | waiting log p ih => cases q <;> simp [both, ih]

theorem all_map (f : α → β) (ps : List (Promise ε α)) :
    all (ps.map (map f)) = (all ps).map (List.map f) := by
  induction ps with
  | nil => rfl
  | cons p rest ih => simp [all, ih, both_map]

end SubjectRules.Promise
