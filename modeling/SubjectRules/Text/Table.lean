import SubjectRules.Text.Words

/-!
# Tables of code points

Properties of characters are written down as words of hexadecimal code points:
`41..5A` is a range, `100..136/2` takes every second one, and a word may end in a
signed distance, as in `41..5A+20`, that says where its code points are mapped.
-/

namespace SubjectRules.Text

structure Row where
  first : Nat
  last : Nat
  step : Nat := 1
  shift : Int := 0
  deriving DecidableEq, Repr

namespace Row

def holds (row : Row) (n : Nat) : Bool :=
  row.first ≤ n && n ≤ row.last && (n - row.first) % row.step = 0

def target (row : Row) (n : Nat) : Nat := ((n : Int) + row.shift).toNat

def points (row : Row) : List Nat :=
  (List.range ((row.last - row.first) / row.step + 1)).map fun i => row.first + i * row.step

end Row

/-! ## Reading a table -/

def hexDigitValue? (c : Char) : Option Nat :=
  if c.isDigit then some (c.toNat - '0'.toNat)
  else if 'a' ≤ c && c ≤ 'f' then some (c.toNat - 'a'.toNat + 10)
  else if 'A' ≤ c && c ≤ 'F' then some (c.toNat - 'A'.toNat + 10)
  else none

def takeHex (acc : Nat) : List Char → Nat × List Char
  | [] => (acc, [])
  | c :: rest =>
      match hexDigitValue? c with
      | some d => takeHex (acc * 16 + d) rest
      | none => (acc, c :: rest)

private def readShift : List Char → Int
  | '+' :: rest => (takeHex 0 rest).1
  | '-' :: rest => -((takeHex 0 rest).1 : Int)
  | _ => 0

private def readRow (word : List Char) : Row :=
  let (first, rest) := takeHex 0 word
  let (last, rest) :=
    match rest with
    | '.' :: '.' :: rest => takeHex 0 rest
    | rest => (first, rest)
  let (step, rest) :=
    match rest with
    | '/' :: rest => takeHex 0 rest
    | rest => (1, rest)
  ⟨first, last, step, readShift rest⟩

def isBreak (c : Char) : Bool := c = ' ' || c = '\n'

def rows (table : String) : List Row := (words isBreak table.toList).map readRow

end SubjectRules.Text
