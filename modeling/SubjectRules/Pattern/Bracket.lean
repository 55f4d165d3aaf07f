import SubjectRules.Pattern.Escape

/-!
# Bracketed sets

Brackets hold characters, ranges, escapes, named sets and further brackets.  Two
ampersands, hyphens or tildes between groups of them intersect, subtract or take the
symmetric difference; the operators bind alike and from the left.  Every set is read
together with the depth of its nesting.
-/

namespace SubjectRules.Pattern

open Text

structure NestedSet where
  set : CodeSet
  height : Nat := 0
  deriving Repr

structure SetGroup where
  set : CodeSet := CodeSet.empty
  count : Nat := 0
  height : Nat := 0
  deriving Repr

namespace SetGroup

def add (group : SetGroup) (item : NestedSet) : SetGroup :=
  ⟨group.set.union item.set, group.count + 1, max group.height item.height⟩

def close (group : SetGroup) : NestedSet :=
  ⟨group.set, if group.count ≤ 1 then group.height else group.height + 1⟩

end SetGroup

inductive SetOperator where
  | intersection
  | difference
  | symmetricDifference
  deriving DecidableEq, Repr

namespace SetOperator

def apply : SetOperator → CodeSet → CodeSet → CodeSet
  | .intersection, a, b => a.inter b
  | .difference, a, b => a.difference b
  | .symmetricDifference, a, b => a.symmetricDifference b

def take? : List Char → Option (SetOperator × List Char)
  | '&' :: '&' :: rest => some (.intersection, rest)
  | '-' :: '-' :: rest => some (.difference, rest)
  | '~' :: '~' :: rest => some (.symmetricDifference, rest)
  | _ => none

end SetOperator

def joinGroups (flags : Flags) (left : Option (SetOperator × NestedSet)) (right : NestedSet) :
    NestedSet :=
  match left with
  | none => right
  | some (operator, left) =>
      let fold (s : CodeSet) := (flags.set? false s).getD s
      ⟨operator.apply (fold left.set) (fold right.set), max left.height right.height + 1⟩

/-! ## Items -/

inductive SetItem where
  | char (c : Char)
  | set (set : CodeSet)

private def readItem (flags : Flags) : List Char → Option (SetItem × List Char)
  | [] => none
  | '\\' :: rest => do
      match ← readEscape flags rest with
      | (.char c _, rest) =>
          guard (flags.unicode || c.toNat < 0x80)
          return (.char c, rest)
      | (.set set, rest) => return (.set set, rest)
      | (.anchor _, _) => none
  | c :: rest => do
      guard (flags.unicode || c.toNat < 0x80)
      return (.char c, rest)

/-- Reads a character, a set or a range.  A hyphen makes a range unless the bracket or
an operator follows it. -/
private def readRange (flags : Flags) (s : List Char) : Option (CodeSet × List Char) := do
  let (first, rest) ← readItem flags s
  let rest := flags.skip rest
  let whole (item : SetItem) : CodeSet :=
    match item with
    | .char c => CodeSet.singleton c.toNat
    | .set set => set
  match rest with
  | '-' :: after =>
      match flags.skip after with
      | [] => none
      | ']' :: _ => return (whole first, rest)
      | '-' :: _ => return (whole first, rest)
      | next =>
          let (last, rest) ← readItem flags next
          match first, last with
          | .char a, .char b =>
              guard (a ≤ b)
              return (CodeSet.ofRange a.toNat b.toNat, rest)
          | _, _ => none
  | _ => return (whole first, rest)

/-- A named set of ASCII, from its colon on; anything else there is an ordinary bracket. -/
private def readAsciiSet (flags : Flags) (s : List Char) : Option (CodeSet × List Char) := do
  match s with
  | ':' :: rest =>
      let negated := rest.head? = some '^'
      let rest := if negated then rest.drop 1 else rest
      let (name, rest) := (rest.takeWhile (· ≠ ':'), rest.dropWhile (· ≠ ':'))
      match rest with
      | ':' :: ']' :: rest =>
          let set ← asciiNamed? (String.ofList name)
          return ((flags.set? negated set).getD CodeSet.full, rest)
      | _ => none
  | _ => none

/-! ## Brackets -/

private def leadingHyphens (flags : Flags) : Nat → SetGroup → List Char → SetGroup × List Char
  | 0, group, s => (group, s)
  | fuel + 1, group, s =>
      match s with
      | '-' :: rest =>
          leadingHyphens flags fuel (group.add ⟨CodeSet.singleton '-'.toNat, 0⟩) (flags.skip rest)
      | _ => (group, s)

mutual

/-- Reads a bracket after its opening.  A closing bracket that comes first stands for
itself. -/
def readBracket (flags : Flags) : Nat → List Char → Option (NestedSet × List Char)
  | 0, _ => none
  | fuel + 1, s =>
      let s := flags.skip s
      let negated := s.head? = some '^'
      let s := if negated then flags.skip (s.drop 1) else s
      let (group, s) := leadingHyphens flags s.length {} s
      match s with
      | ']' :: rest =>
          if group.count = 0 then
            readGroups flags negated fuel none (group.add ⟨CodeSet.singleton ']'.toNat, 0⟩)
              (flags.skip rest)
          else readGroups flags negated fuel none group s
      | _ => readGroups flags negated fuel none group s

def readGroups (flags : Flags) (negated : Bool) :
    Nat → Option (SetOperator × NestedSet) → SetGroup → List Char → Option (NestedSet × List Char)
  | 0, _, _, _ => none
  | fuel + 1, left, group, s =>
      match flags.skip s with
      | [] => none
      | ']' :: rest => do
          let whole := joinGroups flags left group.close
          let set ← flags.set? negated whole.set
          return (⟨set, whole.height + 1⟩, rest)
      | '[' :: rest =>
          match readAsciiSet flags rest with
          | some (set, rest) => readGroups flags negated fuel left (group.add ⟨set, 0⟩) rest
          | none => do
              let (inner, rest) ← readBracket flags fuel rest
              readGroups flags negated fuel left (group.add inner) rest
      | s =>
          match SetOperator.take? s with
          | some (operator, rest) =>
              let joined := joinGroups flags left group.close
              readGroups flags negated fuel (some (operator, joined)) {} rest
          | none => do
              let (set, rest) ← readRange flags s
              readGroups flags negated fuel left (group.add ⟨set, 0⟩) rest

end

end SubjectRules.Pattern
