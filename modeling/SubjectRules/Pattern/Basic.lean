import SubjectRules.Text.Property

/-!
# Patterns

A pattern describes texts.  Its meaning is given by positions: run from a set of
positions in a text, it ends at a set of positions.  A text matches when some run
from anywhere ends somewhere.  These are the patterns of the engine that the project
brings along; rules may be run with any other.
-/

namespace SubjectRules

open Text

inductive WordEdge where
  | edge
  | noEdge
  | start
  | finish
  | startHalf
  | finishHalf
  deriving DecidableEq, Repr

inductive Anchor where
  | textStart
  | textEnd
  | lineStart
  | lineEnd
  /-- The start of a line when carriage returns end lines as well. -/
  | lineStartCrlf
  | lineEndCrlf
  | word (unicode : Bool) (kind : WordEdge)
  deriving DecidableEq, Repr

inductive Pattern where
  | empty
  | one (set : CodeSet)
  | anchor (condition : Anchor)
  | sequence (first second : Pattern)
  | choice (left right : Pattern)
  /-- The body at least so often, and at most so often if there is a limit. -/
  | times (body : Pattern) (least : Nat) (most : Option Nat)
  deriving DecidableEq, Repr

/-! ## Conditions on a position -/

namespace WordEdge

def holds (before after : Bool) : WordEdge → Bool
  | .edge => before != after
  | .noEdge => before == after
  | .start => !before && after
  | .finish => before && !after
  | .startHalf => !before
  | .finishHalf => !after

end WordEdge

def asciiWord : CodeSet := ⟨[(0x30, 0x39), (0x41, 0x5A), (0x5F, 0x5F), (0x61, 0x7A)]⟩

namespace Anchor

def holds (before after : Option Char) : Anchor → Bool
  | .textStart => before.isNone
  | .textEnd => after.isNone
  | .lineStart => before.all (· = '\n')
  | .lineEnd => after.all (· = '\n')
  | .lineStartCrlf => before.all fun c => c = '\n' || c = '\r' && after != some '\n'
  | .lineEndCrlf => after.all fun c => c = '\r' || c = '\n' && before != some '\r'
  | .word unicode kind =>
      let set := if unicode then Property.word else asciiWord
      kind.holds (before.any set.has) (after.any set.has)

end Anchor

namespace Pattern

/-! ## Sets of positions -/

def merge : List Nat → List Nat → List Nat
  | [], bs => bs
  | as, [] => as
  | a :: as, b :: bs =>
      if a < b then a :: merge as (b :: bs)
      else if b < a then b :: merge (a :: as) bs
      else a :: merge as bs
termination_by as bs => as.length + bs.length

/-- What `f` reaches in exactly `n` rounds; a fixed point is reached for good. -/
def exactly (f : List Nat → List Nat) : Nat → List Nat → List Nat
  | 0, ps => ps
  | n + 1, ps =>
      let next := f ps
      if next = ps then ps else exactly f n next

/-- What `f` reaches in at most `n` rounds, of which the last found `fresh`. -/
def within (f : List Nat → List Nat) : Nat → List Nat → List Nat → List Nat
  | 0, seen, _ => seen
  | n + 1, seen, fresh =>
      let found := (f fresh).filter fun p => !seen.contains p
      if found.isEmpty then seen else within f n (merge seen found) found

/-- Where runs from the positions `ps` end. -/
def ends (text : Array Char) : Pattern → List Nat → List Nat
  | .empty, ps => ps
  | .one set, ps =>
      ps.filterMap fun p =>
        match text[p]? with
        | some c => if set.has c then some (p + 1) else none
        | none => none
  | .anchor condition, ps =>
      ps.filter fun p =>
        condition.holds (if p = 0 then none else text[p - 1]?) text[p]?
  | .sequence first second, ps => ends text second (ends text first ps)
  | .choice left right, ps => merge (ends text left ps) (ends text right ps)
  | .times body least most, ps =>
      let reached := exactly (ends text body) least ps
      match most with
      | some most => within (ends text body) (most - least) reached reached
      | none => within (ends text body) (text.size + 1) reached reached

def isMatch (pattern : Pattern) (text : String) : Bool :=
  let chars := text.toList.toArray
  !(pattern.ends chars (List.range (chars.size + 1))).isEmpty

/-! ## Size -/

def isIdle : Pattern → Bool
  | .empty => true
  | .one _ => false
  | .anchor _ => true
  | .sequence first second => first.isIdle && second.isIdle
  | .choice left right => left.isIdle && right.isIdle
  | .times body _ most => body.isIdle || most == some 0

/-- An estimate of the space a set takes: one state for ASCII, and for other characters a
share of the states for the units of their encoding. -/
def setSize (set : CodeSet) : Nat :=
  set.ranges.foldl
    (fun n (_, hi) => if hi < 0x80 then n + 8 else if hi < 0x800 then n + 40 else n + 64) 32

/-- An estimate of the space a pattern takes when its counted repetitions are written out. -/
def size : Pattern → Nat
  | .empty => 32
  | .one set => setSize set
  | .anchor _ => 32
  | .sequence first second => first.size + second.size
  | .choice left right => 40 + left.size + right.size
  | .times body least most =>
      if body.isIdle then 72 + body.size
      else
        match most with
        | some most => least * body.size + (most - least) * (body.size + 40)
        | none => max 1 least * body.size + 72

def sizeLimit : Nat := 10 * Nat.pow 2 20

end Pattern

end SubjectRules
