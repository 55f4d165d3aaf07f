/-!
# Places in a YAML text

A cursor is the text that is left together with where it begins.  Blanks are spaces
and tabs; carriage return, line feed, a pair of them, next line, and the line and
paragraph separators break lines.
-/

namespace SubjectRules.Yaml

inductive ReadError where
  | character
  | token
  | indentation
  | simpleKey
  | escape
  | grammar
  | directive
  | alias
  | tag
  | number
  | repeatedKey
  | tooDeep
  | tooManyAliases
  | severalDocuments
  | shape
  deriving DecidableEq, Repr

def ReadError.message : ReadError → String
  | .character => "control characters are not allowed"
  | .token => "found character that cannot start any token"
  | .indentation => "bad indentation"
  | .simpleKey => "could not find expected ':'"
  | .escape => "found unknown escape character"
  | .grammar => "did not find expected node content"
  | .directive => "invalid directive"
  | .alias => "unknown anchor"
  | .tag => "invalid tag"
  | .number => "integer out of range"
  | .repeatedKey => "duplicate entry in mapping"
  | .tooDeep => "recursion limit exceeded"
  | .tooManyAliases => "repetition limit exceeded"
  | .severalDocuments => "more than one document"
  | .shape => "invalid type"

def isAllowed (c : Char) : Bool :=
  let n := c.toNat
  n = 0x9 || n = 0xA || n = 0xD || 0x20 ≤ n && n ≤ 0x7E || n = 0x85
    || 0xA0 ≤ n && n ≤ 0xD7FF || 0xE000 ≤ n && n ≤ 0xFFFD && n ≠ 0xFEFF || 0x10000 ≤ n

def isBlank (c : Char) : Bool := c = ' ' || c = '\t'

def isLineBreak (c : Char) : Bool :=
  c = '\n' || c = '\r' || c = '\u0085' || c = '\u2028' || c = '\u2029'

def isBlankOrBreak (c : Char) : Bool := isBlank c || isLineBreak c

def isNameChar (c : Char) : Bool := c.isAlphanum || c = '_' || c = '-'

structure Cursor where
  rest : List Char
  index : Nat := 0
  line : Nat := 0
  column : Nat := 0
  deriving Repr

namespace Cursor

def head? (c : Cursor) : Option Char := c.rest.head?

def isAt (cursor : Cursor) (c : Char) : Bool := cursor.rest.head? = some c

def separatedAt (cursor : Cursor) (n : Nat) : Bool :=
  match cursor.rest[n]? with
  | none => true
  | some c => isBlankOrBreak c

def advance (n : Nat) (c : Cursor) : Cursor :=
  { c with rest := c.rest.drop n, index := c.index + n, column := c.column + n }

def span (p : Char → Bool) (c : Cursor) : List Char × Cursor :=
  let taken := c.rest.takeWhile p
  (taken, c.advance taken.length)

def skipWhile (p : Char → Bool) (c : Cursor) : Cursor := (c.span p).2

/-- Takes a line break, which counts as a line feed unless it is a separator. -/
def takeBreak? (c : Cursor) : Option (Char × Cursor) :=
  let next (n : Nat) : Cursor := ⟨c.rest.drop n, c.index + n, c.line + 1, 0⟩
  match c.rest with
  | '\r' :: '\n' :: _ => some ('\n', next 2)
  | b :: _ =>
      if !isLineBreak b then none
      else if b = '\u2028' || b = '\u2029' then some (b, next 1)
      else some ('\n', next 1)
  | [] => none

def atDocumentMark (c : Cursor) : Bool :=
  c.column = 0 && c.separatedAt 3 &&
    (['-', '-', '-'].isPrefixOf c.rest || ['.', '.', '.'].isPrefixOf c.rest)

def skipLineEnd? (c : Cursor) : Option Cursor :=
  let c := c.skipWhile isBlank
  let c := if c.isAt '#' then c.skipWhile (!isLineBreak ·) else c
  match c.rest with
  | [] => some c
  | _ => c.takeBreak?.map Prod.snd

end Cursor

/-! ## Gaps inside scalars -/

structure Gap where
  blanks : List Char := []
  breaks : List Char := []
  /-- Whether the first line break was escaped and is not in `breaks`. -/
  escaped : Bool := false
  deriving Repr

namespace Gap

def broken (g : Gap) : Bool := g.escaped || !g.breaks.isEmpty

/-- What stands for the gap: its blanks on one line, a space for one line feed, and the
line feeds after the first for several. -/
def fold (g : Gap) : List Char :=
  if g.escaped then g.breaks
  else
    match g.breaks with
    | [] => g.blanks
    | ['\n'] => [' ']
    | '\n' :: others => others
    | breaks => breaks

/-- Reads a gap.  After a line break no tab may stand before column `indent`. -/
def read (indent : Int) : Nat → Gap → Cursor → Except ReadError (Gap × Cursor)
  | 0, g, c => .ok (g, c)
  | fuel + 1, g, c =>
      match c.takeBreak? with
      | some (b, next) => read indent fuel { g with blanks := [], breaks := g.breaks ++ [b] } next
      | none =>
          match c.rest with
          | b :: _ =>
              if !isBlank b then .ok (g, c)
              else if !g.broken then
                read indent fuel { g with blanks := g.blanks ++ [b] } (c.advance 1)
              else if b = '\t' && (c.column : Int) < indent then .error .indentation
              else read indent fuel g (c.advance 1)
          | [] => .ok (g, c)

end Gap

end SubjectRules.Yaml
