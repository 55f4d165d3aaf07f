import SubjectRules.Json.Path

/-!
# Schemas: rules laid out by field

A schema is an ordered mapping from field names to nodes.  A node is a leaf, which
holds one rule or a chain of rules, or a branch, which holds the schema of a nested
object.  Entries keep the position of their first insertion.
-/

namespace SubjectRules

/-- What stands at a field that is checked itself: one rule, or several in order. -/
inductive Leaf (ρ : Type) where
  | single (rule : ρ)
  | chain (rules : List ρ)
  deriving DecidableEq, Repr

/-- An ordered mapping from field names to leaves and branches. -/
inductive Schema (ρ : Type) where
  | nil
  | leaf (key : String) (rules : Leaf ρ) (rest : Schema ρ)
  | branch (key : String) (sub rest : Schema ρ)
  deriving DecidableEq, Repr

def Leaf.map {ρ σ : Type} (f : ρ → σ) : Leaf ρ → Leaf σ
  | .single rule => .single (f rule)
  | .chain rules => .chain (rules.map f)

namespace Schema

variable {ρ : Type}

def map {σ : Type} (f : ρ → σ) : Schema ρ → Schema σ
  | .nil => .nil
  | .leaf key rules rest => .leaf key (rules.map f) (map f rest)
  | .branch key sub rest => .branch key (map f sub) (map f rest)

inductive Node (ρ : Type) where
  | leaf (rules : Leaf ρ)
  | branch (sub : Schema ρ)
  deriving DecidableEq, Repr

instance : Inhabited (Schema ρ) := ⟨.nil⟩

def cons (key : String) : Node ρ → Schema ρ → Schema ρ
  | .leaf rules, rest => .leaf key rules rest
  | .branch sub, rest => .branch key sub rest

def entries : Schema ρ → List (String × Node ρ)
  | .nil => []
  | .leaf key rules rest => (key, .leaf rules) :: rest.entries
  | .branch key sub rest => (key, .branch sub) :: rest.entries

def size (s : Schema ρ) : Nat := s.entries.length

def isEmpty : Schema ρ → Bool
  | .nil => true
  | _ => false

def get? (key : String) : Schema ρ → Option (Node ρ)
  | .nil => none
  | .leaf k rules rest => if k = key then some (.leaf rules) else get? key rest
  | .branch k sub rest => if k = key then some (.branch sub) else get? key rest

/-! ## Building -/

/-- Puts a node at `key`, in place when the key is present and at the end otherwise.
Also returns the node that was there. -/
def exchange (key : String) (node : Node ρ) : Schema ρ → Option (Node ρ) × Schema ρ
  | .nil => (none, cons key node .nil)
  | .leaf k rules rest =>
      if k = key then (some (.leaf rules), cons key node rest)
      else
        let (old, rest) := exchange key node rest
        (old, .leaf k rules rest)
  | .branch k sub rest =>
      if k = key then (some (.branch sub), cons key node rest)
      else
        let (old, rest) := exchange key node rest
        (old, .branch k sub rest)

def insert (s : Schema ρ) (key : String) (node : Node ρ) : Schema ρ := (s.exchange key node).2

@[simp] theorem entries_cons (key : String) (node : Node ρ) (rest : Schema ρ) :
    (cons key node rest).entries = (key, node) :: rest.entries := by
  cases node <;> rfl

@[simp] theorem get?_cons (key other : String) (node : Node ρ) (rest : Schema ρ) :
    get? other (cons key node rest) = if key = other then some node else get? other rest := by
  cases node <;> rfl

theorem exchange_fst (key : String) (node : Node ρ) (s : Schema ρ) :
    (s.exchange key node).1 = s.get? key := by
  induction s with
  | nil => rfl
  | leaf k rules rest ih => by_cases h : k = key <;> simp [exchange, get?, h, ih]
  | branch k sub rest _ ih => by_cases h : k = key <;> simp [exchange, get?, h, ih]

theorem get?_insert (s : Schema ρ) (key other : String) (node : Node ρ) :
    (s.insert key node).get? other = if key = other then some node else s.get? other := by
  unfold insert
  induction s with
  | nil => simp [exchange, get?]
  | leaf k rules rest ih =>
      by_cases h : k = key
      · by_cases key = other <;> simp_all [exchange, get?]
      · by_cases k = other <;> simp_all [exchange, get?, eq_comm]
  | branch k sub rest _ ih =>
      by_cases h : k = key
      · by_cases key = other <;> simp_all [exchange, get?]
      · by_cases k = other <;> simp_all [exchange, get?, eq_comm]

def withRule (s : Schema ρ) (key : String) (rule : ρ) : Schema ρ :=
  s.insert key (.leaf (.single rule))

/-- Adds a chain of rules; an empty chain is ignored. -/
def withChain (s : Schema ρ) (key : String) (rules : List ρ) : Schema ρ :=
  if rules.isEmpty then s else s.insert key (.leaf (.chain rules))

def withBranch (s : Schema ρ) (key : String) (sub : Schema ρ) : Schema ρ :=
  s.insert key (.branch sub)

def ofEntries (entries : List (String × Node ρ)) : Schema ρ :=
  entries.foldl (fun s entry => s.insert entry.1 entry.2) .nil

/-! ## Leaves -/

/-- The leaves below `here` with their paths, depth first and in definition order. -/
def leavesFrom (here : FieldPath) : Schema ρ → List (FieldPath × Leaf ρ)
  | .nil => []
  | .leaf key rules rest => (here ++ [key], rules) :: leavesFrom here rest
  | .branch key sub rest => leavesFrom (here ++ [key]) sub ++ leavesFrom here rest

def leaves (s : Schema ρ) : List (FieldPath × Leaf ρ) := s.leavesFrom []

def leafPaths (s : Schema ρ) : List FieldPath := s.leaves.map Prod.fst

end Schema

end SubjectRules
