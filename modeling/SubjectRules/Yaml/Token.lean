import SubjectRules.Text.Table
import SubjectRules.Yaml.Cursor

/-!
# YAML tokens

A text is first cut into tokens.  Indentation shows as tokens that open and close block
collections, so that tokens nest as the text does.
-/

namespace SubjectRules.Yaml

inductive Style where
  | plain
  | literal
  | quoted
  deriving DecidableEq, Repr

inductive Token where
  | version (major minor : Nat)
  | tagDirective (handle start : String)
  | documentStart
  | documentEnd
  | blockSequenceStart
  | blockMappingStart
  | blockEnd
  | flowSequenceStart
  | flowSequenceEnd
  | flowMappingStart
  | flowMappingEnd
  | blockEntry
  | flowEntry
  | key
  | value
  | alias (name : String)
  | anchor (name : String)
  | tag (handle suffix : String)
  | scalar (style : Style) (text : String)
  | streamEnd
  deriving DecidableEq, Repr

namespace Token

def isDirective : Token → Bool
  | .version .. => true
  | .tagDirective .. => true
  | _ => false

def isMark : Token → Bool
  | .documentStart => true
  | .documentEnd => true
  | .streamEnd => true
  | _ => false

end Token

/-! ## Names and tags -/

def readAnchorName (c : Cursor) : Except ReadError (String × Cursor) :=
  let (name, next) := c.span isNameChar
  let ends :=
    match next.rest.head? with
    | none => true
    | some d =>
        isBlankOrBreak d || d = '?' || d = ':' || d = ',' || d = ']' || d = '}' || d = '%'
          || d = '@' || d = Char.ofNat 0x60
  if name.isEmpty || !ends then .error .token else .ok (String.ofList name, next)

def isTagChar (verbatim : Bool) (c : Char) : Bool :=
  isNameChar c || ";/?:@&=+$.%!~*'()".toList.contains c
    || verbatim && (c = ',' || c = '[' || c = ']')

private def hexPair? (a b : Char) : Option Nat :=
  match Text.hexDigitValue? a, Text.hexDigitValue? b with
  | some a, some b => some (a * 16 + b)
  | _, _ => none

def unitCount? (unit : Nat) : Option Nat :=
  if unit < 0x80 then some 1
  else if 0xC0 ≤ unit && unit < 0xE0 then some 2
  else if 0xE0 ≤ unit && unit < 0xF0 then some 3
  else if 0xF0 ≤ unit && unit < 0xF8 then some 4
  else none

def takeUnits : Nat → List Char → Option (List Nat × List Char)
  | 0, s => some ([], s)
  | n + 1, '%' :: a :: b :: rest =>
      match hexPair? a b, takeUnits n rest with
      | some unit, some (units, rest) => some (unit :: units, rest)
      | _, _ => none
  | _ + 1, _ => none

def takeEscaped? (s : List Char) : Option (Char × List Char) := do
  let (first, _) ← takeUnits 1 s
  let lead ← first.head?
  let count ← unitCount? lead
  let (units, rest) ← takeUnits count s
  guard ((units.drop 1).all fun unit => 0x80 ≤ unit && unit < 0xC0)
  let high := if count = 1 then lead else lead % Nat.pow 2 (7 - count)
  return (Char.ofNat ((units.drop 1).foldl (fun n unit => n * 64 + unit % 64) high), rest)

def unescapeTag : Nat → List Char → Option (List Char)
  | 0, _ => some []
  | _ + 1, [] => some []
  | fuel + 1, '%' :: rest => do
      let (c, rest) ← takeEscaped? ('%' :: rest)
      return c :: (← unescapeTag fuel rest)
  | fuel + 1, c :: rest => do return c :: (← unescapeTag fuel rest)

def readTagText (verbatim : Bool) (c : Cursor) : Except ReadError (String × Cursor) :=
  let (raw, next) := c.span (isTagChar verbatim)
  match unescapeTag (raw.length + 1) raw with
  | some text => .ok (String.ofList text, next)
  | none => .error .tag

def readHandle (c : Cursor) : Except ReadError (String × Cursor) :=
  if !c.isAt '!' then .error .tag
  else
    let (name, next) := (c.advance 1).span isNameChar
    if next.isAt '!' then .ok (String.ofList ('!' :: (name ++ ['!'])), next.advance 1)
    else .ok (String.ofList ('!' :: name), next)

/-- Reads a tag.  A handle that does not end in an exclamation mark belongs to the name
after the plain handle; a lone exclamation mark has no handle. -/
def readTag (inFlow : Bool) (c : Cursor) : Except ReadError (Token × Cursor) := do
  let (token, next) ←
    if c.rest[1]? = some '<' then do
      let (text, next) ← readTagText true (c.advance 2)
      if text.isEmpty || !next.isAt '>' then throw ReadError.tag
      pure (Token.tag "" text, next.advance 1)
    else do
      let (handle, afterHandle) ← readHandle c
      if 2 ≤ handle.length && handle.toList.getLast? = some '!' then do
        let (suffix, next) ← readTagText false afterHandle
        if suffix.isEmpty then throw ReadError.tag
        pure (Token.tag handle suffix, next)
      else do
        let (rest, next) ← readTagText false afterHandle
        let suffix := String.ofList (handle.toList.drop 1) ++ rest
        pure (if suffix.isEmpty then Token.tag "" "!" else Token.tag "!" suffix, next)
  if next.separatedAt 0 || inFlow && next.isAt ',' then return (token, next) else throw .tag

/-! ## Directives -/

private def readVersionPart (c : Cursor) : Except ReadError (Nat × Cursor) :=
  let (digits, next) := c.span Char.isDigit
  if digits.isEmpty || 9 < digits.length then .error .directive
  else .ok (digits.foldl (fun n d => n * 10 + (d.toNat - '0'.toNat)) 0, next)

def readDirective (c : Cursor) : Except ReadError (Token × Cursor) := do
  let (name, next) := c.span isNameChar
  if name.isEmpty || !next.separatedAt 0 then throw .directive
  let next := next.skipWhile isBlank
  let (token, next) ←
    match String.ofList name with
    | "YAML" => do
        let (major, next) ← readVersionPart next
        if !next.isAt '.' then throw .directive
        let (minor, next) ← readVersionPart (next.advance 1)
        pure (Token.version major minor, next)
    | "TAG" => do
        let (handle, next) ← readHandle next
        if handle ≠ "!" && handle.toList.getLast? ≠ some '!' then throw .directive
        if !next.rest.head?.any isBlank then throw .directive
        let (start, next) ← readTagText true (next.skipWhile isBlank)
        if start.isEmpty || !next.separatedAt 0 then throw .directive
        pure (Token.tagDirective handle start, next)
    | _ => throw .directive
  match next.skipLineEnd? with
  | some next => return (token, next)
  | none => throw .directive

end SubjectRules.Yaml
