import SubjectRules.Text.Table
import SubjectRules.Yaml.Basic

/-!
# Plain scalars

What a scalar without quotes stands for: null, a boolean, an integer, a double, or
else its own text.  Digits after a leading zero are text, and so is a decimal too
large for a double.
-/

namespace SubjectRules.Yaml

def isNullText (s : String) : Bool := s = "null" || s = "Null" || s = "NULL" || s = "~"

def boolOfText? (s : String) : Option Bool :=
  if s = "true" || s = "True" || s = "TRUE" then some true
  else if s = "false" || s = "False" || s = "FALSE" then some false
  else none

/-! ## Integers -/

def natOfDigits? (base : Nat) (digits : List Char) : Option Nat :=
  if digits.isEmpty then none
  else
    digits.foldl
      (fun n c =>
        match n, Text.hexDigitValue? c with
        | some n, some d => if d < base then some (n * base + d) else none
        | _, _ => none)
      (some 0)

def basedDigits? : List Char → Option (Nat × List Char)
  | '0' :: 'x' :: digits => some (16, digits)
  | '0' :: 'o' :: digits => some (8, digits)
  | '0' :: 'b' :: digits => some (2, digits)
  | _ => none

def splitSign : List Char → Option Char × List Char
  | '+' :: rest => (some '+', rest)
  | '-' :: rest => (some '-', rest)
  | rest => (none, rest)

/-- Digits that are text: more than one, with a zero in front. -/
def isZeroPadded (s : List Char) : Bool :=
  match (splitSign s).2 with
  | '0' :: d :: rest => (d :: rest).all Char.isDigit
  | _ => false

def integerOfText? (s : List Char) : Option Int :=
  let (sign, magnitude) := splitSign s
  let value :=
    match basedDigits? magnitude with
    | some (base, digits) => natOfDigits? base digits
    | none => if isZeroPadded s then none else natOfDigits? 10 magnitude
  value.map fun n => if sign = some '-' then -(n : Int) else (n : Int)

/-- What becomes of an integer: it fits 64 bits, it fits 128 bits and is refused, or it
is no integer at all. -/
inductive IntegerFit where
  | fits (value : Int)
  | tooWide
  | none
  deriving DecidableEq, Repr

def integerFit (s : List Char) : IntegerFit :=
  match integerOfText? s with
  | some n =>
      if -Int.pow 2 63 ≤ n && n < Int.pow 2 64 then .fits n
      else if -Int.pow 2 127 ≤ n && n < Int.pow 2 128 then .tooWide
      else .none
  | none => .none

/-! ## Doubles -/

def finiteDecimal? (digits : List Char) (power : Int) : Option Float :=
  let digits := digits.dropWhile (· = '0')
  let significand := (natOfDigits? 10 digits).getD 0
  let leading := power + digits.length
  if significand = 0 || leading < -400 then some 0.0
  else if 400 < leading then none
  else
    let x := Float.ofScientific significand (power < 0) power.natAbs
    if x.isFinite then some x else none

def exponentOfText? : List Char → Option Int
  | [] => some 0
  | c :: rest =>
      if c = 'e' || c = 'E' then
        let (sign, digits) := splitSign rest
        if digits.all Char.isDigit then
          (natOfDigits? 10 digits).map fun n => if sign = some '-' then -(n : Int) else (n : Int)
        else none
      else none

def decimalOfText? (s : List Char) : Option Float := do
  let whole := s.takeWhile Char.isDigit
  let rest := s.dropWhile Char.isDigit
  let (fraction, rest) :=
    match rest with
    | '.' :: rest => (rest.takeWhile Char.isDigit, rest.dropWhile Char.isDigit)
    | rest => ([], rest)
  guard (!whole.isEmpty || !fraction.isEmpty)
  let power ← exponentOfText? rest
  finiteDecimal? (whole ++ fraction) (power - fraction.length)

def floatOfText? (s : String) : Option Float :=
  let (sign, magnitude) := splitSign s.toList
  let text := String.ofList magnitude
  let signed (x : Float) : Float := if sign = some '-' then -x else x
  if text = ".inf" || text = ".Inf" || text = ".INF" then some (signed (1.0 / 0.0))
  else if s = ".nan" || s = ".NaN" || s = ".NAN" then some (0.0 / 0.0)
  else (decimalOfText? magnitude).map signed

/-! ## The value of a plain scalar -/

/-- The value of a plain scalar; an integer too wide to keep has none. -/
def ofPlain? (s : String) : Option Yaml :=
  if s.isEmpty || isNullText s then some .null
  else
    match boolOfText? s, integerFit s.toList with
    | some b, _ => some (.bool b)
    | none, .fits n => some (.num (.int n))
    | none, .tooWide => none
    | none, .none =>
        if isZeroPadded s.toList then some (.str s)
        else
          match floatOfText? s with
          | some x => some (.num (.float x))
          | none => some (.str s)

end SubjectRules.Yaml
