import SubjectRules.Pattern.Bracket

/-!
# Reading patterns

A pattern is a choice between sequences of pieces.  A piece is a character, an escape,
a bracket, a condition or a group, and may be repeated.  Flags set inside a group hold
until it ends.  Patterns that nest too deeply or grow too large are refused.
-/

namespace SubjectRules.Pattern

open Text

structure Nested where
  pattern : Pattern
  height : Nat := 0
  deriving Repr

def nestingLimit : Nat := 250

/-- A piece of a sequence; flags that were set take a place but match nothing. -/
abbrev Piece := Option Nested

private def heightOf (heights : List Nat) : Nat :=
  let deepest := heights.foldl max 0
  if heights.length ≤ 1 then deepest else deepest + 1

/-- The sequence of pieces, given last first. -/
def joinPieces (pieces : List Piece) : Nested where
  pattern :=
    match pieces.filterMap (·.map Nested.pattern) with
    | [] => .empty
    | last :: others => others.foldl (fun tail p => .sequence p tail) last
  height := heightOf (pieces.map fun piece => (piece.map Nested.height).getD 0)

def joinChoices (choices : List Nested) : Nested where
  pattern :=
    match choices.map Nested.pattern with
    | [] => .empty
    | last :: others => others.foldl (fun tail p => .choice p tail) last
  height := heightOf (choices.map Nested.height)

/-! ## Repetitions -/

private def decimalOf (digits : List Char) : Nat :=
  digits.foldl (fun n c => n * 10 + (c.toNat - '0'.toNat)) 0

private def countDigits (flags : Flags) : Nat → List Char → List Char → List Char × List Char
  | 0, acc, s => (acc.reverse, s)
  | fuel + 1, acc, s =>
      match s with
      | c :: rest =>
          if c.isDigit then countDigits flags fuel (c :: acc) (flags.skip rest)
          else (acc.reverse, s)
      | [] => (acc.reverse, [])

private def readCount (flags : Flags) (s : List Char) : Option (Nat × List Char) := do
  let s := s.dropWhile isWhiteSpace
  let (digits, rest) := countDigits flags s.length [] s
  guard (!digits.isEmpty && decimalOf digits < Nat.pow 2 32)
  return (decimalOf digits, flags.skip (rest.dropWhile isWhiteSpace))

private def readLimits (flags : Flags) (s : List Char) :
    Option ((Nat × Option Nat) × List Char) := do
  let (least, rest) ← readCount flags (flags.skip s)
  let (limits, rest) ←
    match rest with
    | ',' :: rest =>
        match flags.skip rest with
        | '}' :: rest => some ((least, none), '}' :: rest)
        | rest => (readCount flags rest).map fun (most, rest) => ((least, some most), rest)
    | rest => some ((least, some least), rest)
  match rest with
  | '}' :: rest =>
      guard (limits.2.all (limits.1 ≤ ·))
      return (limits, rest)
  | _ => none

/-- Drops the mark of a repetition that prefers to end early; it does not matter to
what matches. -/
private def dropLazy : List Char → List Char
  | '?' :: rest => rest
  | s => s

private def repeatLast (least : Nat) (most : Option Nat) : List Piece → Option (List Piece)
  | some body :: others =>
      some (some ⟨.times body.pattern least most, body.height + 1⟩ :: others)
  | _ => none

/-! ## Groups -/

/-- The flags of a group, up to the colon or parenthesis that ends them; each may be
given once, and one after a hyphen is cleared. -/
private def readFlags (seen : List Char) (clear : Bool) (flags : Flags) :
    List Char → Option (Flags × Bool × List Char)
  | [] => none
  | c :: rest =>
      if c = ':' || c = ')' then
        if seen.head? = some '-' then none else some (flags, !seen.isEmpty, c :: rest)
      else if seen.contains c then none
      else
        match c with
        | '-' => readFlags (c :: seen) true flags rest
        | 'i' => readFlags (c :: seen) clear { flags with ignoreCase := !clear } rest
        | 'm' => readFlags (c :: seen) clear { flags with multiLine := !clear } rest
        | 's' => readFlags (c :: seen) clear { flags with dotMatchesNewline := !clear } rest
        | 'U' => readFlags (c :: seen) clear flags rest
        | 'u' => readFlags (c :: seen) clear { flags with unicode := !clear } rest
        | 'R' => readFlags (c :: seen) clear { flags with crlf := !clear } rest
        | 'x' => readFlags (c :: seen) clear { flags with verbose := !clear } rest
        | _ => none

private def nameStarts (c : Char) : Bool := c = '_' || Property.alphabetic.has c

private def nameContinues (c : Char) : Bool :=
  nameStarts c || Category.number.has c || c = '.' || c = '[' || c = ']'

private def readName (s : List Char) : Option (List Char × List Char) :=
  match s.takeWhile (· ≠ '>'), s.dropWhile (· ≠ '>') with
  | c :: name, '>' :: rest =>
      if nameStarts c && name.all nameContinues then some (c :: name, rest) else none
  | _, _ => none

private inductive Opening where
  | named (name : List Char)
  | group (flags : Flags)
  | setFlags (flags : Flags)

private def readOpening (flags : Flags) (s : List Char) : Option (Opening × List Char) := do
  match flags.skip s with
  | '?' :: 'P' :: '<' :: rest =>
      let (name, rest) ← readName rest
      return (.named name, rest)
  | '?' :: '<' :: rest =>
      let (name, rest) ← readName rest
      return (.named name, rest)
  | '?' :: rest =>
      let (inner, given, rest) ← readFlags [] false flags rest
      match rest with
      | ')' :: rest =>
          guard given
          return (.setFlags inner, rest)
      | rest => return (.group inner, rest.drop 1)
  | rest => return (.group flags, rest)

/-! ## Pieces -/

private def readDot (flags : Flags) : Option Pattern :=
  let newlines := if flags.crlf then ['\n', '\r'] else ['\n']
  let set :=
    if flags.dotMatchesNewline then CodeSet.full
    else (CodeSet.unions (newlines.map fun c => CodeSet.singleton c.toNat)).complement
  if flags.unicode then some (.one set) else none

private def lineAnchor (flags : Flags) (text line crlfLine : Anchor) : Pattern :=
  .anchor (if !flags.multiLine then text else if flags.crlf then crlfLine else line)

private def escapedPiece (flags : Flags) : Escaped → Option Pattern
  | .char c unit =>
      if unit && !flags.unicode && 0x80 ≤ c.toNat then none else some (.one (flags.charSet c))
  | .set set => some (.one set)
  | .anchor condition => some (.anchor condition)

private def readSimple (flags : Flags) (c : Char) (rest : List Char) :
    Option (Nested × List Char) :=
  match c with
  | '[' => do
      let (set, rest) ← readBracket flags (2 * rest.length + 2) rest
      return (⟨.one set.set, set.height⟩, rest)
  | '\\' => do
      let (escaped, rest) ← readEscape flags rest
      return (⟨← escapedPiece flags escaped, 0⟩, rest)
  | '.' => do return (⟨← readDot flags, 0⟩, rest)
  | '^' => some (⟨lineAnchor flags .textStart .lineStart .lineStartCrlf, 0⟩, rest)
  | '$' => some (⟨lineAnchor flags .textEnd .lineEnd .lineEndCrlf, 0⟩, rest)
  | c => some (⟨.one (flags.charSet c), 0⟩, rest)

/-- Reads choices up to the end of the text or a closing parenthesis, which is left.
`names` are the names of the groups that have begun. -/
def readChoices : Nat → Flags → List (List Char) → List Nested → List Piece → List Char →
    Option (Nested × List (List Char) × List Char)
  | 0, _, _, _, _, _ => none
  | fuel + 1, flags, names, choices, pieces, s =>
      match flags.skip s with
      | [] => some (joinChoices (joinPieces pieces :: choices), names, [])
      | ')' :: rest => some (joinChoices (joinPieces pieces :: choices), names, ')' :: rest)
      | '|' :: rest => readChoices fuel flags names (joinPieces pieces :: choices) [] rest
      | '?' :: rest => do
          readChoices fuel flags names choices (← repeatLast 0 (some 1) pieces) (dropLazy rest)
      | '*' :: rest => do
          readChoices fuel flags names choices (← repeatLast 0 none pieces) (dropLazy rest)
      | '+' :: rest => do
          readChoices fuel flags names choices (← repeatLast 1 none pieces) (dropLazy rest)
      | '{' :: rest => do
          let ((least, most), rest) ← readLimits flags rest
          let pieces ← repeatLast least most pieces
          readChoices fuel flags names choices pieces (dropLazy (flags.skip rest))
      | '(' :: rest => do
          let group (inner : Flags) (names : List (List Char)) (rest : List Char) := do
            let (body, names, rest) ← readChoices fuel inner names [] [] rest
            match rest with
            | ')' :: rest =>
                readChoices fuel flags names choices
                  (some ⟨body.pattern, body.height + 1⟩ :: pieces) rest
            | _ => none
          match ← readOpening flags rest with
          | (.setFlags inner, rest) => readChoices fuel inner names choices (none :: pieces) rest
          | (.group inner, rest) => group inner names rest
          | (.named name, rest) => do
              guard (!names.contains name)
              group flags (name :: names) rest
      | c :: rest => do
          let (piece, rest) ← readSimple flags c rest
          readChoices fuel flags names choices (some piece :: pieces) rest

def read? (source : String) : Option Pattern := do
  let chars := source.toList
  let (whole, _, rest) ← readChoices (chars.length + 1) {} [] [] [] chars
  guard (rest.isEmpty && whole.height ≤ nestingLimit && whole.pattern.size ≤ sizeLimit)
  return whole.pattern

end SubjectRules.Pattern
