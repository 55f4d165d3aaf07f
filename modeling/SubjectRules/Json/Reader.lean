import SubjectRules.Json.Basic

/-!
# Reading JSON text

The reader works on the list of characters that are left.  Each call that reads a
value, an item or a field consumes at least one character, so the number of
characters bounds the recursion.  Nesting is limited by a depth that the caller
chooses.
-/

namespace SubjectRules.Json

inductive ReadError where
  | unexpectedEnd
  | unexpected (found : Char)
  | badNumber
  | numberOutOfRange
  | badEscape
  | controlCharacter
  | tooDeep
  | trailing
  deriving DecidableEq, Repr

def ReadError.message : ReadError → String
  | .unexpectedEnd => "unexpected end of input"
  | .unexpected found => "unexpected character " ++ String.singleton found
  | .badNumber => "invalid number"
  | .numberOutOfRange => "number out of range"
  | .badEscape => "invalid escape"
  | .controlCharacter => "control character in a string"
  | .tooDeep => "nesting is too deep"
  | .trailing => "trailing characters"

private def isBlank (c : Char) : Bool := c = ' ' || c = '\n' || c = '\t' || c = '\r'

def skipBlanks (s : List Char) : List Char := s.dropWhile isBlank

/-! ## Numerals -/

private def digitValue (c : Char) : Nat := c.toNat - '0'.toNat

private def takeDigits (s : List Char) : List Nat × List Char :=
  ((s.takeWhile Char.isDigit).map digitValue, s.dropWhile Char.isDigit)

private def readFraction (s : List Char) : Except ReadError (Option (List Nat) × List Char) :=
  match s with
  | '.' :: rest =>
      match takeDigits rest with
      | ([], _) => .error .badNumber
      | (digits, rest) => .ok (some digits, rest)
  | rest => .ok (none, rest)

private def readPower (s : List Char) : Except ReadError (Option (Bool × List Nat) × List Char) :=
  match s with
  | c :: rest =>
      if c = 'e' || c = 'E' then
        let (down, rest) :=
          match rest with
          | '+' :: rest => (false, rest)
          | '-' :: rest => (true, rest)
          | rest => (false, rest)
        match takeDigits rest with
        | ([], _) => .error .badNumber
        | (digits, rest) => .ok (some (down, digits), rest)
      else .ok (none, s)
  | [] => .ok (none, [])

def readNumber (s : List Char) : Except ReadError (Number × List Char) := do
  let (negative, s) :=
    match s with
    | '-' :: rest => (true, rest)
    | s => (false, s)
  let (whole, rest) := takeDigits s
  if whole.isEmpty || (whole.length > 1 && whole.head? = some 0) then throw .badNumber
  let (fraction, rest) ← readFraction rest
  let (power, rest) ← readPower rest
  match Number.ofNumeral? ⟨negative, whole, fraction, power⟩ with
  | some n => return (n, rest)
  | none => throw .numberOutOfRange

/-! ## Strings -/

private def hexValue? (c : Char) : Option Nat :=
  if c.isDigit then some (c.toNat - '0'.toNat)
  else if 'a' ≤ c && c ≤ 'f' then some (c.toNat - 'a'.toNat + 10)
  else if 'A' ≤ c && c ≤ 'F' then some (c.toNat - 'A'.toNat + 10)
  else none

private def readUnit : List Char → Except ReadError (Nat × List Char)
  | a :: b :: c :: d :: rest =>
      match hexValue? a, hexValue? b, hexValue? c, hexValue? d with
      | some a, some b, some c, some d => .ok (((a * 16 + b) * 16 + c) * 16 + d, rest)
      | _, _, _, _ => .error .badEscape
  | _ => .error .unexpectedEnd

/-- A code point from a four-digit escape; a pair of surrogates makes one, a lone
surrogate none. -/
private def readCodePoint (s : List Char) : Except ReadError (Char × List Char) := do
  let (unit, rest) ← readUnit s
  if 0xDC00 ≤ unit && unit < 0xE000 then throw .badEscape
  else if 0xD800 ≤ unit && unit < 0xDC00 then
    match rest with
    | '\\' :: 'u' :: rest =>
        let (low, rest) ← readUnit rest
        if 0xDC00 ≤ low && low < 0xE000 then
          return (Char.ofNat (0x10000 + (unit - 0xD800) * 0x400 + (low - 0xDC00)), rest)
        else throw .badEscape
    | _ => throw .badEscape
  else return (Char.ofNat unit, rest)

def readString : Nat → List Char → List Char → Except ReadError (String × List Char)
  | 0, _, _ => .error .unexpectedEnd
  | _ + 1, _, [] => .error .unexpectedEnd
  | _ + 1, acc, '"' :: rest => .ok (String.ofList acc.reverse, rest)
  | fuel + 1, acc, '\\' :: c :: rest =>
      match c with
      | '"' => readString fuel ('"' :: acc) rest
      | '\\' => readString fuel ('\\' :: acc) rest
      | '/' => readString fuel ('/' :: acc) rest
      | 'b' => readString fuel (Char.ofNat 0x08 :: acc) rest
      | 'f' => readString fuel (Char.ofNat 0x0C :: acc) rest
      | 'n' => readString fuel ('\n' :: acc) rest
      | 'r' => readString fuel ('\r' :: acc) rest
      | 't' => readString fuel ('\t' :: acc) rest
      | 'u' =>
          match readCodePoint rest with
          | .ok (point, rest) => readString fuel (point :: acc) rest
          | .error e => .error e
      | _ => .error .badEscape
  | fuel + 1, acc, c :: rest =>
      if c.toNat < 0x20 then .error .controlCharacter
      else if c = '\\' then .error .unexpectedEnd
      else readString fuel (c :: acc) rest

private def readQuoted (s : List Char) : Except ReadError (String × List Char) :=
  readString (s.length + 1) [] s

/-! ## Values -/

private def dropWord? (word : String) (s : List Char) : Option (List Char) :=
  if word.toList.isPrefixOf s then some (s.drop word.length) else none

private def unexpectedHere : List Char → ReadError
  | [] => .unexpectedEnd
  | c :: _ => .unexpected c

private def readWord (s : List Char) : Except ReadError (Json × List Char) :=
  match dropWord? "null" s, dropWord? "true" s, dropWord? "false" s with
  | some rest, _, _ => .ok (.null, rest)
  | _, some rest, _ => .ok (.bool true, rest)
  | _, _, some rest => .ok (.bool false, rest)
  | _, _, _ => .error (unexpectedHere s)

mutual

/-- Reads one value, with `depth` levels of nesting left. -/
def readValue : Nat → Nat → List Char → Except ReadError (Json × List Char)
  | 0, _, _ => .error .unexpectedEnd
  | fuel + 1, depth, s =>
      match skipBlanks s with
      | '"' :: rest => do
          let (value, rest) ← readQuoted rest
          return (.str value, rest)
      | '[' :: rest =>
          if depth = 0 then .error .tooDeep
          else
            match skipBlanks rest with
            | ']' :: rest => .ok (.arr [], rest)
            | rest => readItems fuel (depth - 1) [] rest
      | '{' :: rest =>
          if depth = 0 then .error .tooDeep
          else
            match skipBlanks rest with
            | '}' :: rest => .ok (.obj [], rest)
            | rest => readFields fuel (depth - 1) [] rest
      | c :: rest =>
          if c = '-' || c.isDigit then do
            let (value, rest) ← readNumber (c :: rest)
            return (.num value, rest)
          else readWord (c :: rest)
      | [] => .error .unexpectedEnd

def readItems : Nat → Nat → List Json → List Char → Except ReadError (Json × List Char)
  | 0, _, _, _ => .error .unexpectedEnd
  | fuel + 1, depth, acc, s => do
      let (value, rest) ← readValue fuel depth s
      match skipBlanks rest with
      | ',' :: rest => readItems fuel depth (value :: acc) rest
      | ']' :: rest => return (.arr (value :: acc).reverse, rest)
      | rest => throw (unexpectedHere rest)

/-- Reads the fields of an object, up to and with its closing brace.  A repeated key
keeps its first position and takes its last value. -/
def readFields : Nat → Nat → Fields → List Char → Except ReadError (Json × List Char)
  | 0, _, _, _ => .error .unexpectedEnd
  | fuel + 1, depth, acc, s =>
      match skipBlanks s with
      | '"' :: rest => do
          let (key, rest) ← readQuoted rest
          match skipBlanks rest with
          | ':' :: rest =>
              let (value, rest) ← readValue fuel depth rest
              let acc := Fields.insert key value acc
              match skipBlanks rest with
              | ',' :: rest => readFields fuel depth acc rest
              | '}' :: rest => return (.obj acc, rest)
              | rest => throw (unexpectedHere rest)
          | rest => throw (unexpectedHere rest)
      | rest => .error (unexpectedHere rest)

end

/-- Reads a whole text that nests at most `depth` levels. -/
def read (depth : Nat) (source : String) : Except ReadError Json := do
  let chars := source.toList
  let (value, rest) ← readValue (chars.length + 1) depth chars
  if (skipBlanks rest).isEmpty then return value else throw .trailing

end SubjectRules.Json
