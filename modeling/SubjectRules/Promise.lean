import SubjectRules.Logged

/-!
# Promises

A promise is polled until it settles.  Each poll logs events; the last one also gives
the value.  Promises that are awaited together are polled in order, round by round,
and each is left alone once it has settled.
-/

namespace SubjectRules

/-- What polling will do: settle now, or log and wait for another poll. -/
inductive Promise (ε α : Type) where
  | settled (log : List ε) (value : α)
  | waiting (log : List ε) (rest : Promise ε α)
  deriving Repr

namespace Promise

variable {ε α β : Type}

def value : Promise ε α → α
  | .settled _ a => a
  | .waiting _ rest => rest.value

def log : Promise ε α → List ε
  | .settled log _ => log
  | .waiting log rest => log ++ rest.log

/-- Waits for `n` polls that do nothing before the first poll. -/
def after : Nat → Promise ε α → Promise ε α
  | 0, p => p
  | n + 1, p => .waiting [] (after n p)

/-- Puts events before those of the first poll. -/
def prepend (events : List ε) : Promise ε α → Promise ε α
  | .settled log a => .settled (events ++ log) a
  | .waiting log rest => .waiting (events ++ log) rest

/-- Goes on with the promise that `next` makes of the value, in the poll that settles
the first. -/
def bind (next : α → Promise ε β) : Promise ε α → Promise ε β
  | .settled log a => (next a).prepend log
  | .waiting log rest => .waiting log (rest.bind next)

def mapLogged (f : α → Logged ε β) (p : Promise ε α) : Promise ε β :=
  p.bind fun a => .settled (f a).log (f a).value

def map (f : α → β) (p : Promise ε α) : Promise ε β := p.mapLogged fun a => pure (f a)

/-! ## Awaiting several promises -/

/-- Awaits two promises, the left one polled first in each round. -/
def both : Promise ε α → Promise ε β → Promise ε (α × β)
  | .settled l a, .settled m b => .settled (l ++ m) (a, b)
  | .settled l a, .waiting m q => .waiting (l ++ m) (q.map (a, ·))
  | .waiting l p, .settled m b => .waiting (l ++ m) (p.map (·, b))
  | .waiting l p, .waiting m q => .waiting (l ++ m) (p.both q)

def all : List (Promise ε α) → Promise ε (List α)
  | [] => .settled [] []
  | p :: rest => (p.both (all rest)).map fun (a, as) => a :: as

/-! ## Values and logs -/

@[simp] theorem value_prepend (events : List ε) (p : Promise ε α) :
    (p.prepend events).value = p.value := by
  cases p <;> rfl

@[simp] theorem log_prepend (events : List ε) (p : Promise ε α) :
    (p.prepend events).log = events ++ p.log := by
  cases p <;> simp [prepend, log]

@[simp] theorem value_after (n : Nat) (p : Promise ε α) : (p.after n).value = p.value := by
  induction n with
  | zero => rfl
  | succ n ih => simpa [after, value] using ih

@[simp] theorem value_bind (next : α → Promise ε β) (p : Promise ε α) :
    (p.bind next).value = (next p.value).value := by
  induction p with
  | settled log a => simp [bind, value]
  | waiting log rest ih => simpa [bind, value] using ih

@[simp] theorem log_bind (next : α → Promise ε β) (p : Promise ε α) :
    (p.bind next).log = p.log ++ (next p.value).log := by
  induction p with
  | settled events a => simp [bind, value, log]
  | waiting events rest ih => simp [bind, value, log, ih]

@[simp] theorem value_mapLogged (f : α → Logged ε β) (p : Promise ε α) :
    (p.mapLogged f).value = (f p.value).value := by
  simp [mapLogged, value]

@[simp] theorem log_mapLogged (f : α → Logged ε β) (p : Promise ε α) :
    (p.mapLogged f).log = p.log ++ (f p.value).log := by
  simp [mapLogged, log]

@[simp] theorem value_map (f : α → β) (p : Promise ε α) : (p.map f).value = f p.value := by
  simp [map]

@[simp] theorem value_both (p : Promise ε α) (q : Promise ε β) :
    (p.both q).value = (p.value, q.value) := by
  induction p generalizing q with
  | settled l a => cases q <;> simp [both, value]
  | waiting l p ih => cases q <;> simp [both, value, ih]

@[simp] theorem value_all (ps : List (Promise ε α)) : (all ps).value = ps.map value := by
  induction ps with
  | nil => rfl
  | cons p rest ih => simp [all, ih]

end Promise

end SubjectRules
