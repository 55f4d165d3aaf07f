import SubjectRules.Yaml.Block
import SubjectRules.Yaml.Plain
import SubjectRules.Yaml.Quoted
import SubjectRules.Yaml.Token

/-!
# Cutting a YAML text into tokens

The lexer keeps the indentations of the block collections that are open and, for every
flow collection that is open, the place where a key may have begun.  A key without an
indicator shows only when its colon is met; the tokens that open it are then put before
it.
-/

namespace SubjectRules.Yaml

structure KeyStart where
  position : Nat
  /-- Whether it must be a key, because a block mapping goes on there. -/
  required : Bool
  index : Nat
  line : Nat
  column : Nat
  deriving Repr

structure Lexer where
  cursor : Cursor
  /-- More than the characters of the whole text, so a bound for every loop. -/
  bound : Nat
  /-- The tokens so far, last first. -/
  tokens : List Token := []
  count : Nat := 0
  /-- The columns of open block collections, innermost first. -/
  indents : List Nat := []
  keyAllowed : Bool := true
  /-- Where a key may have begun, innermost flow collection first and the block last. -/
  keyStarts : List (Option KeyStart) := [none]
  deriving Repr

namespace Lexer

abbrev Step := Lexer → Except ReadError Lexer

/-- The column of the innermost block collection; negative when there is none. -/
def indent (l : Lexer) : Int :=
  match l.indents with
  | [] => -1
  | column :: _ => column

def inFlow (l : Lexer) : Bool := 1 < l.keyStarts.length

def emit (token : Token) (l : Lexer) : Lexer :=
  { l with tokens := token :: l.tokens, count := l.count + 1 }

def emitAt (position : Nat) (token : Token) (l : Lexer) : Lexer :=
  let after := l.count - position
  { l with
    tokens := l.tokens.take after ++ token :: l.tokens.drop after
    count := l.count + 1 }

def goTo (cursor : Cursor) (l : Lexer) : Lexer := { l with cursor }

def advance (n : Nat) (l : Lexer) : Lexer := l.goTo (l.cursor.advance n)

def allowKey (allowed : Bool) (l : Lexer) : Lexer := { l with keyAllowed := allowed }

/-! ## Keys without an indicator -/

private def setKeyStart (start : Option KeyStart) (l : Lexer) : Lexer :=
  match l.keyStarts with
  | [] => l
  | _ :: outer => { l with keyStarts := start :: outer }

private def keyStart? (l : Lexer) : Option KeyStart := l.keyStarts.head?.join

/-- Gives up the innermost place where a key may have begun; one that had to be a key
cannot be given up. -/
def dropKeyStart : Step := fun l =>
  if l.keyStart?.any (·.required) then .error .simpleKey else .ok (l.setKeyStart none)

def noteKeyStart : Step := fun l => do
  if !l.keyAllowed then return l
  let c := l.cursor
  let required := !l.inFlow && l.indent = c.column
  let l ← l.dropKeyStart
  return l.setKeyStart (some ⟨l.count, required, c.index, c.line, c.column⟩)

/-- A key without an indicator stays on one line and is shorter than 1024 characters. -/
def KeyStart.isStale (c : Cursor) (k : KeyStart) : Bool :=
  k.line < c.line || k.index + 1024 < c.index

def dropStaleKeys : Step := fun l =>
  let stale (k : Option KeyStart) : Bool := k.any (KeyStart.isStale l.cursor)
  if l.keyStarts.any fun k => stale k && k.any (·.required) then .error .simpleKey
  else .ok { l with keyStarts := l.keyStarts.map fun k => if stale k then none else k }

/-! ## Indentation -/

def unindent (column : Int) (l : Lexer) : Lexer :=
  if l.inFlow then l
  else
    let closed := l.indents.takeWhile fun (open_ : Nat) => column < (open_ : Int)
    { l with
      indents := l.indents.drop closed.length
      tokens := List.replicate closed.length .blockEnd ++ l.tokens
      count := l.count + closed.length }

def indentTo (column position : Nat) (token : Token) (l : Lexer) : Lexer :=
  if l.inFlow || !(l.indent < (column : Int)) then l
  else ({ l with indents := column :: l.indents } : Lexer).emitAt position token

def openBlock (token : Token) : Step := fun l =>
  if l.inFlow then .ok l
  else if !l.keyAllowed then .error .indentation
  else .ok (l.indentTo l.cursor.column l.count token)

/-! ## Tokens -/

/-- Skips blanks, comments and line breaks.  A tab may not stand where a key may begin
outside brackets. -/
def skipToToken : Nat → Lexer → Lexer
  | 0, l => l
  | fuel + 1, l =>
      let isSkipped (c : Char) : Bool := c = ' ' || (l.inFlow || !l.keyAllowed) && c = '\t'
      let c := l.cursor.skipWhile isSkipped
      let c := if c.isAt '#' then c.skipWhile (!isLineBreak ·) else c
      match c.takeBreak? with
      | some (_, next) => skipToToken fuel ((l.goTo next).allowKey (l.keyAllowed || !l.inFlow))
      | none => l.goTo c

def openFlow (token : Token) : Step := fun l => do
  let l ← l.noteKeyStart
  let l := ({ l with keyStarts := none :: l.keyStarts } : Lexer).allowKey true
  return (l.advance 1).emit token

def closeFlow (token : Token) : Step := fun l => do
  let l ← l.dropKeyStart
  let keyStarts := if l.inFlow then l.keyStarts.drop 1 else l.keyStarts
  return ((({ l with keyStarts } : Lexer).allowKey false).advance 1).emit token

def lexFlowEntry : Step := fun l => do
  let l ← l.dropKeyStart
  return ((l.allowKey true).advance 1).emit .flowEntry

def lexBlockEntry : Step := fun l => do
  let l ← l.openBlock .blockSequenceStart
  let l ← l.dropKeyStart
  return ((l.allowKey true).advance 1).emit .blockEntry

def lexKey : Step := fun l => do
  let l ← l.openBlock .blockMappingStart
  let l ← l.dropKeyStart
  return ((l.allowKey !l.inFlow).advance 1).emit .key

def lexValue : Step := fun l => do
  match l.keyStart? with
  | some k =>
      let l := (l.setKeyStart none).emitAt k.position .key
      let l := l.indentTo k.column k.position .blockMappingStart
      return ((l.allowKey false).advance 1).emit .value
  | none =>
      let l ← l.openBlock .blockMappingStart
      return ((l.allowKey !l.inFlow).advance 1).emit .value

def lexKeyPart (read : Cursor → Except ReadError (Token × Cursor)) : Step := fun l => do
  let l ← l.noteKeyStart
  let (token, next) ← read l.cursor
  return ((l.allowKey false).goTo next).emit token

def lexPlain : Step := fun l => do
  let l ← l.noteKeyStart
  let c := l.cursor
  let (text, broken, next) ← readPlain l.inFlow (l.indent + 1) l.bound [] {} true c
  return ((l.allowKey broken).goTo next).emit (.scalar .plain text)

def lexQuoted (quote : Char) : Step := fun l =>
  l.lexKeyPart fun c => do
    let (text, next) ← readQuoted quote l.bound [] (c.advance 1)
    return (.scalar .quoted text, next)

def lexBlock (literal : Bool) : Step := fun l => do
  let l ← l.dropKeyStart
  let (text, next) ← readBlock literal l.indent l.bound (l.cursor.advance 1)
  let style := if literal then Style.literal else .quoted
  return ((l.allowKey true).goTo next).emit (.scalar style text)

def lexDirective : Step := fun l => do
  let l ← (l.unindent (-1)).dropKeyStart
  let (token, next) ← readDirective (l.cursor.advance 1)
  return ((l.allowKey false).goTo next).emit token

def lexDocumentMark : Step := fun l => do
  let l ← (l.unindent (-1)).dropKeyStart
  let token := if l.cursor.isAt '-' then Token.documentStart else .documentEnd
  return ((l.allowKey false).advance 3).emit token

def lexEnd : Step := fun l => do
  let l ← (l.unindent (-1)).dropKeyStart
  return l.emit .streamEnd

def startsPlain (l : Lexer) (c : Char) : Bool :=
  if c = '-' then !(l.cursor.rest[1]?.any isBlank)
  else if c = '?' || c = ':' then !l.inFlow && !l.cursor.separatedAt 1
  else !(isBlankOrBreak c || ",[]\x7b\x7d#&*!|>'\"%@".toList.contains c || c = Char.ofNat 0x60)

def lexToken : Step := fun l =>
  match l.cursor.rest with
  | [] => l.lexEnd
  | c :: _ =>
      let separated := l.cursor.separatedAt 1
      if l.cursor.column = 0 && c = '%' then l.lexDirective
      else if l.cursor.atDocumentMark then l.lexDocumentMark
      else if c = '[' then l.openFlow .flowSequenceStart
      else if c = '{' then l.openFlow .flowMappingStart
      else if c = ']' then l.closeFlow .flowSequenceEnd
      else if c = '}' then l.closeFlow .flowMappingEnd
      else if c = ',' then l.lexFlowEntry
      else if c = '-' && separated then l.lexBlockEntry
      else if c = '?' && (l.inFlow || separated) then l.lexKey
      else if c = ':' && (l.inFlow || separated) then l.lexValue
      else if c = '*' then
        l.lexKeyPart fun c => do
          let (name, next) ← readAnchorName (c.advance 1)
          return (.alias name, next)
      else if c = '&' then
        l.lexKeyPart fun c => do
          let (name, next) ← readAnchorName (c.advance 1)
          return (.anchor name, next)
      else if c = '!' then l.lexKeyPart (readTag l.inFlow)
      else if c = '|' && !l.inFlow then l.lexBlock true
      else if c = '>' && !l.inFlow then l.lexBlock false
      else if c = '\'' || c = '"' then l.lexQuoted c
      else if l.startsPlain c then l.lexPlain
      else .error .token

def run : Nat → Step
  | 0, _ => .error .token
  | fuel + 1, l => do
      let l ← (l.skipToToken l.bound).dropStaleKeys
      let l := if l.cursor.rest.isEmpty then l else l.unindent l.cursor.column
      let ended := l.cursor.rest.isEmpty
      let l ← l.lexToken
      if ended then return l else run fuel l

end Lexer

def Token.ofText? (source : String) : Except ReadError (List Token) := do
  let chars := source.toList
  let chars := if chars.head? = some (Char.ofNat 0xFEFF) then chars.drop 1 else chars
  if !chars.all isAllowed then throw .character
  let l ← Lexer.run (chars.length + 1) { cursor := ⟨chars, 0, 0, 0⟩, bound := chars.length + 1 }
  return l.tokens.reverse

end SubjectRules.Yaml
