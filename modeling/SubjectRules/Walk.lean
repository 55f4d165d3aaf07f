import SubjectRules.Answer
import SubjectRules.Schema

/-!
# Walking a schema beside an object

A walk visits the entries of a schema in order, together with the value of the same
name in a related object.  Each leaf is asked for a result; branches may be pruned.
Results that are there at once are sorted out during the pass.  Promised ones keep
their place, are awaited together after the pass, and are sorted out in the same
order.  The outcome is a sparse object: the kept results at their paths, written over
a seed.  A walk that looks for a first match stops at it and gives that path alone.
-/

namespace SubjectRules

structure Walk (ε ρ α : Type) where
  /-- The result of a leaf, if it has any. -/
  ask : Leaf ρ → Option Json → Logged ε (Answer ε (Option α))
  encode : α → Json
  keep : α → Logged ε Bool := fun _ => pure true
  /-- Whether a branch is left out, given the value that it would be walked beside. -/
  prune : Schema ρ → Option Json → Logged ε Bool := fun _ _ => pure false
  /-- Whether a result ends the walk. -/
  isMatch : α → Logged ε Bool := fun _ => pure false
  related : Option Json.Fields := none
  seed : Option Json.Fields := none

/-- What the pass leaves at a path: a result that is kept, or a promised one. -/
inductive Slot (ε α : Type) where
  | kept (path : FieldPath) (result : α)
  | promised (path : FieldPath) (promise : Promise ε (Option α))

namespace Slot

variable {ε α : Type}

def isPromised : Slot ε α → Bool
  | .kept .. => false
  | .promised .. => true

def kept? : Slot ε α → Option (FieldPath × α)
  | .kept path result => some (path, result)
  | .promised .. => none

def promise : Slot ε α → Promise ε (Option α)
  | .kept _ result => .settled [] (some result)
  | .promised _ promise => promise

end Slot

namespace Walk

variable {ε ρ α : Type}

/-- A logged step of a walk that may end it with a match. -/
abbrev Step (ε α : Type) := ExceptT (FieldPath × α) (Logged ε)

/-! ## The pass -/

def siftNow (w : Walk ε ρ α) (path : FieldPath) (result : α) : Step ε α (List (Slot ε α)) := do
  if ← w.isMatch result then throw (path, result)
  if ← w.keep result then return [.kept path result] else return []

def collectLeaf (w : Walk ε ρ α) (path : FieldPath) (rules : Leaf ρ) (value : Option Json) :
    Step ε α (List (Slot ε α)) := do
  match ← w.ask rules value with
  | .now none => return []
  | .now (some result) => w.siftNow path result
  | .later promise => return [.promised path promise]

def collect (w : Walk ε ρ α) :
    FieldPath → Option Json.Fields → Schema ρ → Step ε α (List (Slot ε α))
  | _, _, .nil => return []
  | here, related, .leaf key rules rest => do
      let first ← w.collectLeaf (here ++ [key]) rules (related.bind (·.get? key))
      let others ← w.collect here related rest
      return first ++ others
  | here, related, .branch key sub rest => do
      let value := related.bind (·.get? key)
      let first ←
        if ← w.prune sub value then pure []
        else w.collect (here ++ [key]) (value.bind Json.fields?) sub
      let others ← w.collect here related rest
      return first ++ others

/-! ## The outcome -/

/-- Sorts out the awaited results in order.  Results that were there at once have been
tested already and are taken as they are. -/
def siftLater (w : Walk ε ρ α) : List (Slot ε α × Option α) → Step ε α (List (FieldPath × α))
  | [] => return []
  | (_, none) :: rest => w.siftLater rest
  | (.kept path _, some result) :: rest => do
      let others ← w.siftLater rest
      return (path, result) :: others
  | (.promised path _, some result) :: rest => do
      if ← w.isMatch result then throw (path, result)
      if ← w.keep result then
        let others ← w.siftLater rest
        return (path, result) :: others
      else w.siftLater rest

def alone (w : Walk ε ρ α) (path : FieldPath) (result : α) : Json.Fields :=
  Json.Fields.assign path (w.encode result) []

/-- The kept results written over the seed; nothing when there is neither. -/
def written (w : Walk ε ρ α) (kept : List (FieldPath × α)) : Option Json.Fields :=
  if w.seed.isNone && kept.isEmpty then none
  else
    some ((w.seed.getD []).assignAll (kept.map fun (path, result) => (path, w.encode result)))

def outcome (w : Walk ε ρ α) : Except (FieldPath × α) (List (FieldPath × α)) → Option Json.Fields
  | .error (path, result) => some (w.alone path result)
  | .ok kept => w.written kept

def settle (w : Walk ε ρ α) (slots : List (Slot ε α)) : Promise ε (Option Json.Fields) :=
  (Promise.all (slots.map Slot.promise)).mapLogged fun results =>
    w.outcome <$> (w.siftLater (slots.zip results)).run

/-- Walks a schema.  The outcome is there at once when a result that is there ends the
walk or when no leaf deferred. -/
def run (w : Walk ε ρ α) (schema : Schema ρ) : Logged ε (Answer ε (Option Json.Fields)) := do
  match ← (w.collect [] w.related schema).run with
  | .error hit => return .now (w.outcome (.error hit))
  | .ok slots =>
      if slots.any Slot.isPromised then return .later (w.settle slots)
      else return .now (w.written (slots.filterMap Slot.kept?))

end Walk

end SubjectRules
