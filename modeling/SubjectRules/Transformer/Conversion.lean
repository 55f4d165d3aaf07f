import SubjectRules.Text.Case
import SubjectRules.Transformer.Basic

/-!
# Conversions

The conversions that a rule document can name.  Those of texts leave all other values as
they are; a fallback stands in for a missing or null value.
-/

namespace SubjectRules

inductive Conversion where
  | trim
  | lowercase
  | uppercase
  | collapseWhitespace
  | fallback (value : Json)
  deriving Repr

namespace Conversion

/-- Converts a text and leaves other values as they are. -/
def onText (f : String → String) : Json → Json
  | .str s => .str (f s)
  | value => value

def apply : Conversion → Option Json → Option Json
  | .trim, value => value.map (onText Text.trim)
  | .lowercase, value => value.map (onText Text.toLower)
  | .uppercase, value => value.map (onText Text.toUpper)
  | .collapseWhitespace, value => value.map (onText Text.collapseWhiteSpace)
  | .fallback value, none => some value
  | .fallback value, some .null => some value
  | .fallback _, some present => some present

def transformer {ε : Type} (conversion : Conversion) : Transformer ε :=
  Transformer.raw fun value => pure (.now (conversion.apply value))

end Conversion

end SubjectRules
