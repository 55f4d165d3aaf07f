import SubjectRules.Text.Property
import SubjectRules.Text.Script

/-!
# Named sets of characters

Patterns name sets of characters by general category, script or property.  Names are
compared without regard to case, spaces, hyphens and underscores, and a leading `is`
does not count.  The tables are those of this engine: the extensions of a script are not
told from the script, and a property without a row is unknown.
-/

namespace SubjectRules.Pattern

open Text

def plainName (name : List Char) : String :=
  let kept := name.filter fun c => c.toNat < 0x80 && c ≠ ' ' && c ≠ '_' && c ≠ '-'
  let lower := kept.map Char.toLower
  match lower with
  | 'i' :: 's' :: 'c' :: [] => "isc"
  | 'i' :: 's' :: rest => String.ofList rest
  | plain => String.ofList plain

def categories : List (List String × CodeSet) := [
  (["l", "letter"], Category.letter),
  (["lc", "casedletter"], Category.casedLetter),
  (["lu", "uppercaseletter"], Category.uppercaseLetter),
  (["ll", "lowercaseletter"], Category.lowercaseLetter),
  (["lt", "titlecaseletter"], Category.titlecaseLetter),
  (["lm", "modifierletter"], Category.modifierLetter),
  (["lo", "otherletter"], Category.otherLetter),
  (["m", "mark", "combiningmark"], Category.mark),
  (["mn", "nonspacingmark"], Category.nonspacingMark),
  (["mc", "spacingmark"], Category.spacingMark),
  (["me", "enclosingmark"], Category.enclosingMark),
  (["n", "number"], Category.number),
  (["nd", "decimalnumber", "digit"], Category.decimalNumber),
  (["nl", "letternumber"], Category.letterNumber),
  (["no", "othernumber"], Category.otherNumber),
  (["p", "punctuation", "punct"], Category.punctuation),
  (["pc", "connectorpunctuation"], Category.connectorPunctuation),
  (["pd", "dashpunctuation"], Category.dashPunctuation),
  (["ps", "openpunctuation"], Category.openPunctuation),
  (["pe", "closepunctuation"], Category.closePunctuation),
  (["pi", "initialpunctuation"], Category.initialPunctuation),
  (["pf", "finalpunctuation"], Category.finalPunctuation),
  (["po", "otherpunctuation"], Category.otherPunctuation),
  (["s", "symbol"], Category.symbol),
  (["sm", "mathsymbol"], Category.mathSymbol),
  (["sc", "currencysymbol"], Category.currencySymbol),
  (["sk", "modifiersymbol"], Category.modifierSymbol),
  (["so", "othersymbol"], Category.otherSymbol),
  (["z", "separator"], Category.separator),
  (["zs", "spaceseparator"], Category.spaceSeparator),
  (["zl", "lineseparator"], Category.lineSeparator),
  (["zp", "paragraphseparator"], Category.paragraphSeparator),
  (["c", "other"], Category.other),
  (["cc", "control", "cntrl"], Category.control),
  (["cf", "format"], Category.format),
  (["co", "privateuse"], Category.privateUse),
  (["cs", "surrogate"], CodeSet.empty),
  (["cn", "unassigned"], Category.unassigned),
  (["any"], CodeSet.full),
  (["assigned"], Category.assigned),
  (["ascii"], CodeSet.ofRange 0 0x7F)]

def properties : List (List String × CodeSet) := [
  (["alphabetic", "alpha"], Property.alphabetic),
  (["lowercase", "lower"], Property.lowercase),
  (["uppercase", "upper"], Property.uppercase),
  (["cased"], Property.cased),
  (["caseignorable", "ci"], Property.caseIgnorable),
  (["whitespace", "wspace", "space"], whiteSpace),
  (["asciihexdigit", "ahex"], Property.asciiHexDigit),
  (["hexdigit", "hex"], Property.hexDigit),
  (["dash"], Property.dash),
  (["ideographic", "ideo"], Property.ideographic),
  (["emoji"], Property.emoji),
  (["emojipresentation", "epres"], Property.emojiPresentation),
  (["extendedpictographic", "extpict"], Property.extendedPictographic),
  (["joincontrol", "joinc"], Property.joinControl),
  (["math"], Property.math),
  (["quotationmark", "qmark"], Property.quotationMark),
  (["idstart", "ids"], Property.identifierStart),
  (["idcontinue", "idc"], Property.identifierContinue)]

private def findName (name : String) (sets : List (List String × CodeSet)) : Option CodeSet :=
  (sets.find? fun entry => entry.1.contains name).map Prod.snd

def scriptNamed? (name : String) : Option CodeSet :=
  (Script.tables.find? fun entry => entry.1.any fun known => plainName known.toList = name).map
    fun entry => CodeSet.ofTable entry.2

/-- The set that a bare name stands for.  Three short names of categories are names of
properties as well and stand for the categories. -/
def setNamed? (name : List Char) : Option CodeSet :=
  let name := plainName name
  let property :=
    if name = "cf" || name = "sc" || name = "lc" then none else findName name properties
  property <|> findName name categories <|> scriptNamed? name

def setValued? (name value : List Char) : Option CodeSet :=
  let name := plainName name
  let value := plainName value
  if name = "gc" || name = "generalcategory" then findName value categories
  else if name = "sc" || name = "script" || name = "scx" || name = "scriptextensions" then
    scriptNamed? value
  else none

def asciiNamed? (name : String) : Option CodeSet :=
  match name with
  | "alnum" => some ⟨[(0x30, 0x39), (0x41, 0x5A), (0x61, 0x7A)]⟩
  | "alpha" => some ⟨[(0x41, 0x5A), (0x61, 0x7A)]⟩
  | "ascii" => some ⟨[(0, 0x7F)]⟩
  | "blank" => some ⟨[(0x9, 0x9), (0x20, 0x20)]⟩
  | "cntrl" => some ⟨[(0, 0x1F), (0x7F, 0x7F)]⟩
  | "digit" => some ⟨[(0x30, 0x39)]⟩
  | "graph" => some ⟨[(0x21, 0x7E)]⟩
  | "lower" => some ⟨[(0x61, 0x7A)]⟩
  | "print" => some ⟨[(0x20, 0x7E)]⟩
  | "punct" => some ⟨[(0x21, 0x2F), (0x3A, 0x40), (0x5B, 0x60), (0x7B, 0x7E)]⟩
  | "space" => some ⟨[(0x9, 0xD), (0x20, 0x20)]⟩
  | "upper" => some ⟨[(0x41, 0x5A)]⟩
  | "word" => some ⟨[(0x30, 0x39), (0x41, 0x5A), (0x5F, 0x5F), (0x61, 0x7A)]⟩
  | "xdigit" => some ⟨[(0x30, 0x39), (0x41, 0x46), (0x61, 0x66)]⟩
  | _ => none

end SubjectRules.Pattern
