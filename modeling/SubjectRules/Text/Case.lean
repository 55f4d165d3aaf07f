import SubjectRules.Text.CaseTable
import SubjectRules.Text.Property

/-!
# Letter case

Texts are put in lower and upper case letter by letter.  A letter may become several,
and a capital sigma at the end of a word becomes the final small sigma.
-/

namespace SubjectRules.Text

def mapped (table : List Row) (n : Nat) : Nat :=
  match table.find? (·.holds n) with
  | some row => row.target n
  | none => n

/-! ## Lower case -/

def reachesCased (text : List Char) : Bool :=
  match text.dropWhile Property.caseIgnorable.has with
  | [] => false
  | c :: _ => Property.cased.has c

/-- The lower case of a capital sigma between two texts, the first of them reversed. -/
def lowerSigma (before after : List Char) : Char :=
  if reachesCased before && !reachesCased after then 'ς' else 'σ'

def lowerChar (before : List Char) (c : Char) (after : List Char) : List Char :=
  if c = 'Σ' then [lowerSigma before after]
  else if c = 'İ' then ['i', Char.ofNat 0x307]
  else [Char.ofNat (mapped CaseTable.lower c.toNat)]

/-- The lower case of a text that follows `before`, which is reversed. -/
def lowerFrom (before : List Char) : List Char → List Char
  | [] => []
  | c :: rest => lowerChar before c rest ++ lowerFrom (c :: before) rest

def toLower (s : String) : String := String.ofList (lowerFrom [] s.toList)

/-! ## Upper case -/

private def readExpansion (word : List Char) : Nat × List Char :=
  let (n, rest) := takeHex 0 word
  let parts := words (· = '.') (rest.drop 1)
  (n, parts.map fun part => Char.ofNat (takeHex 0 part).1)

def upperExpansions : List (Nat × List Char) :=
  (words isBreak CaseTable.expanding.toList).map readExpansion

def upperChar (c : Char) : List Char :=
  match upperExpansions.lookup c.toNat with
  | some letters => letters
  | none => [Char.ofNat (mapped CaseTable.upper c.toNat)]

def toUpper (s : String) : String := String.ofList (s.toList.flatMap upperChar)

/-! ## Sets that ignore case -/

def foldedPairs : List (Nat × Nat) :=
  CaseTable.fold.flatMap fun row => row.points.map fun n => (n, row.target n)

/-- The set with all code points that fold to what one of its own folds to. -/
def caseClosure (s : CodeSet) : CodeSet :=
  let folded := foldedPairs.filterMap fun (n, f) => if s.contains n then some (f, f) else none
  let targets := CodeSet.ofRanges (s.ranges ++ folded)
  let sources :=
    foldedPairs.filterMap fun (n, f) => if targets.contains f then some (n, n) else none
  CodeSet.ofRanges (targets.ranges ++ sources)

end SubjectRules.Text
