import SubjectRules.Text.Table

/-!
# Sets of code points

A set is a list of ranges.  Sets are closed under union, complement, intersection
and differences; the operations give ranges that are in order and apart.
-/

namespace SubjectRules.Text

/-- A set of code points as inclusive ranges. -/
structure CodeSet where
  ranges : List (Nat × Nat)
  deriving DecidableEq, Repr

namespace CodeSet

def top : Nat := 0x10FFFF

def empty : CodeSet := ⟨[]⟩

def full : CodeSet := ⟨[(0, top)]⟩

def ofRange (first last : Nat) : CodeSet := ⟨[(first, last)]⟩

def singleton (n : Nat) : CodeSet := ofRange n n

def contains (s : CodeSet) (n : Nat) : Bool := s.ranges.any fun (lo, hi) => lo ≤ n && n ≤ hi

def has (s : CodeSet) (c : Char) : Bool := s.contains c.toNat

/-! ## Ranges in order and apart -/

/-- Joins ranges that are in order of their first points where they meet, after the
range from `lo` to `hi`. -/
def joinFrom (lo hi : Nat) : List (Nat × Nat) → List (Nat × Nat)
  | [] => [(lo, hi)]
  | (next, last) :: rest =>
      if next ≤ hi + 1 then joinFrom lo (max hi last) rest else (lo, hi) :: joinFrom next last rest

def join : List (Nat × Nat) → List (Nat × Nat)
  | [] => []
  | (lo, hi) :: rest => joinFrom lo hi rest

def ofRanges (ranges : List (Nat × Nat)) : CodeSet :=
  ⟨join (ranges.mergeSort fun a b => a.1 ≤ b.1)⟩

def ofRows (rows : List Row) : CodeSet :=
  ofRanges <| rows.flatMap fun row =>
    if row.step = 1 then [(row.first, row.last)] else row.points.map fun n => (n, n)

def ofTable (table : String) : CodeSet := ofRows (rows table)

/-! ## Operations -/

def union (a b : CodeSet) : CodeSet := ofRanges (a.ranges ++ b.ranges)

def unions (sets : List CodeSet) : CodeSet := ofRanges (sets.flatMap CodeSet.ranges)

/-- The gaps between ranges that are in order and apart, from `next` on. -/
def gaps (next : Nat) : List (Nat × Nat) → List (Nat × Nat)
  | [] => if next ≤ top then [(next, top)] else []
  | (lo, hi) :: rest =>
      if next < lo then (next, lo - 1) :: gaps (hi + 1) rest else gaps (hi + 1) rest

def complement (s : CodeSet) : CodeSet := ⟨gaps 0 (ofRanges s.ranges).ranges⟩

def inter (a b : CodeSet) : CodeSet := (a.complement.union b.complement).complement

def difference (a b : CodeSet) : CodeSet := a.inter b.complement

def symmetricDifference (a b : CodeSet) : CodeSet := (a.union b).difference (a.inter b)

def isEmpty (s : CodeSet) : Bool := s.ranges.isEmpty

end CodeSet

end SubjectRules.Text
