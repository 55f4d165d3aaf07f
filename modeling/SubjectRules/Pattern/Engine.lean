import SubjectRules.Pattern.Reader

/-!
# Engines for patterns

Rules leave it to an engine which texts are patterns and what a pattern matches.  Nothing
is assumed of an engine, so what is said of rules holds whichever engine there is.

The engine of the project is for running rules.  It knows the common syntax with groups,
classes and flags, general categories, scripts and the properties of `Pattern.properties`.
It stands in for larger engines only there: script extensions are read as scripts, ages and
kinds of breaks are no properties, and `Pattern.size` estimates the space that a compiled
pattern takes.
-/

namespace SubjectRules

class PatternEngine where
  Compiled : Type
  compile : String → Option Compiled
  isMatch : Compiled → String → Bool

instance : PatternEngine where
  Compiled := Pattern
  compile := Pattern.read?
  isMatch := Pattern.isMatch

end SubjectRules
