import SubjectRules.Pattern.Basic
import SubjectRules.Pattern.SetName
import SubjectRules.Text.Case

/-!
# Escapes in patterns

A backslash begins an escape: a character that would mean something else, a character
by its number, a set of characters or a condition on the position.  Flags decide
whether sets know all of Unicode, whether they ignore case and whether white space
counts.
-/

namespace SubjectRules.Pattern

open Text

structure Flags where
  ignoreCase : Bool := false
  multiLine : Bool := false
  dotMatchesNewline : Bool := false
  unicode : Bool := true
  crlf : Bool := false
  verbose : Bool := false
  deriving DecidableEq, Repr

/-! ## White space that does not count -/

def skipVerbose (inComment : Bool) : List Char → List Char
  | [] => []
  | c :: rest =>
      if inComment then skipVerbose (c ≠ '\n') rest
      else if isWhiteSpace c then skipVerbose false rest
      else if c = '#' then skipVerbose true rest
      else c :: rest

def Flags.skip (flags : Flags) (s : List Char) : List Char :=
  if flags.verbose then skipVerbose false s else s

/-! ## Sets under flags -/

/-- A set under the flags: with its case variants, negated, and within ASCII unless
Unicode is known.  Without Unicode a set that leaves ASCII would match parts of
characters, so it is refused. -/
def Flags.set? (flags : Flags) (negated : Bool) (set : CodeSet) : Option CodeSet :=
  let folded :=
    if !flags.ignoreCase then set
    else if flags.unicode then caseClosure set
    else (caseClosure set).inter (CodeSet.ofRange 0 0x7F)
  let set := if negated then folded.complement else folded
  if flags.unicode || set.ranges.all (fun (_, hi) => hi < 0x80) then some set else none

def Flags.charSet (flags : Flags) (c : Char) : CodeSet :=
  let own := CodeSet.singleton c.toNat
  if !flags.ignoreCase then own
  else if flags.unicode then caseClosure own
  else if c.toNat < 0x80 then (caseClosure own).inter (CodeSet.ofRange 0 0x7F)
  else own

def Flags.classSet? (flags : Flags) (letter : Char) : Option CodeSet :=
  let set :=
    match letter.toLower with
    | 'd' => if flags.unicode then Category.decimalNumber else CodeSet.ofRange 0x30 0x39
    | 's' => if flags.unicode then whiteSpace else ⟨[(0x9, 0xD), (0x20, 0x20)]⟩
    | _ => if flags.unicode then Property.word else asciiWord
  { flags with ignoreCase := false : Flags }.set? letter.isUpper set

/-! ## Reading an escape -/

inductive Escaped where
  /-- A character; `unit` says that it was written with two hexadecimal digits. -/
  | char (c : Char) (unit : Bool)
  | set (set : CodeSet)
  | anchor (condition : Anchor)
  deriving Repr

def charOfNat? (n : Nat) : Option Char :=
  if n < 0xD800 || 0xE000 ≤ n && n < 0x110000 then some (Char.ofNat n) else none

def bracedDigits (flags : Flags) : Nat → List Char → List Char → Option (List Char × List Char)
  | 0, _, _ => none
  | fuel + 1, acc, s =>
      match flags.skip s with
      | [] => none
      | '}' :: rest => some (acc.reverse, rest)
      | c :: rest => bracedDigits flags fuel (c :: acc) rest

def fixedDigits (flags : Flags) : Nat → List Char → List Char → Option (List Char × List Char)
  | 0, acc, s => some (acc.reverse, s)
  | count + 1, acc, s =>
      match flags.skip s with
      | c :: rest => fixedDigits flags count (c :: acc) rest
      | [] => none

private def readHexChar (flags : Flags) (count : Nat) (s : List Char) :
    Option (Escaped × List Char) := do
  let braced := (flags.skip s).head? = some '{'
  let (digits, rest) ←
    if braced then bracedDigits flags (s.length + 1) [] ((flags.skip s).drop 1)
    else fixedDigits flags count [] s
  guard (!digits.isEmpty && digits.all fun c => (hexDigitValue? c).isSome)
  let c ← charOfNat? (takeHex 0 digits).1
  return (.char c (!braced && count = 2), rest)

def cutAt (mark : List Char) : List Char → List Char → Option (List Char × List Char)
  | _, [] => none
  | acc, c :: rest =>
      if mark.isPrefixOf (c :: rest) then some (acc.reverse, (c :: rest).drop mark.length)
      else cutAt mark (c :: acc) rest

def namedSet? (name : List Char) : Option (CodeSet × Bool) :=
  match cutAt ['!', '='] [] name with
  | some (name, value) => (setValued? name value).map (·, true)
  | none =>
      match cutAt [':'] [] name <|> cutAt ['='] [] name with
      | some (name, value) => (setValued? name value).map (·, false)
      | none => (setNamed? name).map (·, false)

private def readNamedSet (flags : Flags) (negated : Bool) (s : List Char) :
    Option (Escaped × List Char) := do
  guard flags.unicode
  match flags.skip s with
  | '{' :: rest =>
      let (name, rest) ← bracedDigits flags (rest.length + 1) [] rest
      let (set, turned) ← namedSet? name
      let set ← flags.set? (negated != turned) set
      return (.set set, rest)
  | c :: rest =>
      guard (c ≠ '\\')
      let set ← setNamed? [c]
      let set ← flags.set? negated set
      return (.set set, rest)
  | [] => none

def edgeName (flags : Flags) : Nat → List Char → List Char → List Char × List Char
  | 0, acc, s => (acc.reverse, s)
  | fuel + 1, acc, s =>
      match s with
      | c :: rest =>
          if c.isAlpha || c = '-' then edgeName flags fuel (c :: acc) (flags.skip rest)
          else (acc.reverse, s)
      | [] => (acc.reverse, [])

/-- A word boundary, which may say in braces which side it means.  Braces that begin
with anything but a letter or a hyphen belong to a repetition. -/
private def readBoundary (flags : Flags) (s : List Char) : Option (Escaped × List Char) :=
  let plain := some (Escaped.anchor (.word flags.unicode .edge), s)
  match s with
  | '{' :: rest =>
      match flags.skip rest with
      | [] => none
      | c :: inner =>
          if c.isAlpha || c = '-' then do
            let (name, rest) := edgeName flags (inner.length + 2) [] (c :: inner)
            let kind ←
              match String.ofList name with
              | "start" => some WordEdge.start
              | "end" => some WordEdge.finish
              | "start-half" => some WordEdge.startHalf
              | "end-half" => some WordEdge.finishHalf
              | _ => none
            match rest with
            | '}' :: rest => some (.anchor (.word flags.unicode kind), rest)
            | _ => none
          else plain
  | _ => plain

/-- Reads an escape after its backslash.  Letters and digits need a meaning; other
ASCII characters stand for themselves. -/
def readEscape (flags : Flags) (s : List Char) : Option (Escaped × List Char) :=
  match s with
  | [] => none
  | c :: rest =>
      match c with
      | 'x' => readHexChar flags 2 rest
      | 'u' => readHexChar flags 4 rest
      | 'U' => readHexChar flags 8 rest
      | 'p' => readNamedSet flags false rest
      | 'P' => readNamedSet flags true rest
      | 'a' => some (.char (Char.ofNat 0x07) false, rest)
      | 'f' => some (.char (Char.ofNat 0x0C) false, rest)
      | 't' => some (.char '\t' false, rest)
      | 'n' => some (.char '\n' false, rest)
      | 'r' => some (.char '\r' false, rest)
      | 'v' => some (.char (Char.ofNat 0x0B) false, rest)
      | 'A' => some (.anchor .textStart, rest)
      | 'z' => some (.anchor .textEnd, rest)
      | 'b' => readBoundary flags rest
      | 'B' => some (.anchor (.word flags.unicode .noEdge), rest)
      | '<' => some (.anchor (.word flags.unicode .start), rest)
      | '>' => some (.anchor (.word flags.unicode .finish), rest)
      | _ =>
          if c = 'd' || c = 's' || c = 'w' || c = 'D' || c = 'S' || c = 'W' then
            (flags.classSet? c).map (.set ·, rest)
          else if c.toNat < 0x80 && !c.isAlphanum then some (.char c false, rest)
          else none

end SubjectRules.Pattern
