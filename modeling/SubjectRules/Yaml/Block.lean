import SubjectRules.Yaml.Cursor

/-!
# Block scalars

A block scalar holds the lines below its header that are indented as far as its first
line, or as far as the header says.  A literal one keeps line breaks; a folded one
joins lines that begin with neither blank.  The header also says what becomes of the
line breaks at the end.
-/

namespace SubjectRules.Yaml

inductive Chomping where
  | strip
  | clip
  | keep
  deriving DecidableEq, Repr

structure BlockHeader where
  chomping : Chomping := .clip
  increment : Option Nat := none
  deriving Repr

namespace BlockHeader

private def chompingOf? (c : Char) : Option Chomping :=
  if c = '+' then some .keep else if c = '-' then some .strip else none

private def incrementOf? (c : Char) : Option Nat :=
  if c.isDigit then some (c.toNat - '0'.toNat) else none

/-- Reads the two indicators in either order; a zero is no indentation. -/
def read (c : Cursor) : Except ReadError (BlockHeader × Cursor) := do
  let first := c.rest.head?
  let second := c.rest[1]?
  let (header, length) :=
    match first.bind chompingOf?, second.bind incrementOf? with
    | some chomping, some n => (BlockHeader.mk chomping (some n), 2)
    | some chomping, none => (BlockHeader.mk chomping none, 1)
    | none, _ =>
        match first.bind incrementOf?, second.bind chompingOf? with
        | some n, some chomping => (BlockHeader.mk chomping (some n), 2)
        | some n, none => (BlockHeader.mk .clip (some n), 1)
        | none, _ => (BlockHeader.mk .clip none, 0)
  if header.increment = some 0 then throw .indentation
  return (header, c.advance length)

end BlockHeader

/-- Skips the indentation of lines and takes the breaks of empty ones.  `indent` is the
indentation, if it is known.  Returns the breaks, the widest indentation and the place
reached. -/
def takeEmptyLines (indent : Option Nat) :
    Nat → List Char → Nat → Cursor → Except ReadError (List Char × Nat × Cursor)
  | 0, breaks, widest, c => .ok (breaks, widest, c)
  | fuel + 1, breaks, widest, c =>
      let spaces := (c.rest.takeWhile (· = ' ')).length
      let wanted :=
        match indent with
        | none => spaces
        | some indent => min spaces (indent - c.column)
      let c := c.advance wanted
      let widest := max widest c.column
      if (indent.all (c.column < ·)) && c.isAt '\t' then .error .indentation
      else
        match c.takeBreak? with
        | some (b, next) => takeEmptyLines indent fuel (breaks ++ [b]) widest next
        | none => .ok (breaks, widest, c)

structure BlockText where
  /-- The text before the last line break, reversed. -/
  acc : List Char := []
  lineBreak : List Char := []
  blankStart : Bool := false
  deriving Repr

namespace BlockText

/-- The text with a line after it.  `empties` are the breaks of the empty lines before
the new one. -/
def addLine (literal : Bool) (t : BlockText) (empties line lineBreak : List Char) : BlockText :=
  let blankStart := line.head?.any isBlank
  let between :=
    if !literal && t.lineBreak.head? = some '\n' && !t.blankStart && !blankStart then
      if empties.isEmpty then [' '] else empties
    else t.lineBreak ++ empties
  ⟨line.reverse ++ (between.reverse ++ t.acc), lineBreak, blankStart⟩

def finish (chomping : Chomping) (t : BlockText) (empties : List Char) : String :=
  let tail :=
    match chomping with
    | .strip => []
    | .clip => t.lineBreak
    | .keep => t.lineBreak ++ empties
  String.ofList (t.acc.reverse ++ tail)

end BlockText

def readBlockLines (literal : Bool) (chomping : Chomping) (indent : Nat) :
    Nat → BlockText → List Char → Cursor → Except ReadError (String × Cursor)
  | 0, t, empties, c => .ok (t.finish chomping empties, c)
  | fuel + 1, t, empties, c =>
      if c.column = indent && !c.rest.isEmpty then
        let (line, c) := c.span (!isLineBreak ·)
        let (lineBreak, c) :=
          match c.takeBreak? with
          | some (b, c) => ([b], c)
          | none => ([], c)
        let t := t.addLine literal empties line lineBreak
        match takeEmptyLines (some indent) fuel [] 0 c with
        | .ok (empties, _, c) => readBlockLines literal chomping indent fuel t empties c
        | .error e => .error e
      else .ok (t.finish chomping empties, c)

/-- Reads a block scalar after its indicator; `parent` is the indentation of what holds
it, which is negative at the root. -/
def readBlock (literal : Bool) (parent : Int) (fuel : Nat) (c : Cursor) :
    Except ReadError (String × Cursor) := do
  let (header, c) ← BlockHeader.read c
  match c.skipLineEnd? with
  | none => throw .token
  | some c =>
      let known := header.increment.map fun n => if 0 ≤ parent then parent.toNat + n else n
      let (empties, widest, c) ← takeEmptyLines known fuel [] 0 c
      let indent := known.getD (max widest (max (parent + 1).toNat 1))
      readBlockLines literal header.chomping indent fuel {} empties c

end SubjectRules.Yaml
