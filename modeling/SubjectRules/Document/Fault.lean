import SubjectRules.Json.Path

/-!
# Faults of a rule document

A fault says what is wrong with one entry and where it stands.  It disables the field
of the entry and nothing else.
-/

namespace SubjectRules

/-! ## Places -/

inductive PlaceStep where
  | element (index : Nat)
  | part
  | partElement (index : Nat)
  deriving DecidableEq, Repr

def PlaceStep.text : PlaceStep → String
  | .element index => "[" ++ Decimal.digitText index ++ "]"
  | .part => ".of"
  | .partElement index => ".of[" ++ Decimal.digitText index ++ "]"

/-- A place in a rule document: the section and the fields on the way, then the steps
into the rules of the last field. -/
structure Place where
  fields : FieldPath
  steps : List PlaceStep := []
  deriving DecidableEq, Repr

namespace Place

def step (place : Place) (s : PlaceStep) : Place := { place with steps := place.steps ++ [s] }

def text (place : Place) : String :=
  (if place.fields.isEmpty then "<root>" else String.intercalate "." place.fields)
    ++ String.join (place.steps.map PlaceStep.text)

end Place

/-! ## Faults -/

inductive Oddity where
  | null
  | boolean
  | number
  | taggedValue
  | ruleNameNotText
  | nestedSequence
  | mappingWithoutRule
  | keyNotText
  deriving DecidableEq, Repr

def Oddity.text : Oddity → String
  | .null => "null"
  | .boolean => "boolean"
  | .number => "number"
  | .taggedValue => "tagged value"
  | .ruleNameNotText => "rule name is not a string"
  | .nestedSequence => "nested sequence"
  | .mappingWithoutRule => "mapping without 'rule'"
  | .keyNotText => "non-string key"

inductive ArgumentFault where
  | notNumber
  | notCount
  | notText
  | notSequence
  | noRule
  | notOneRule
  | noJsonForm (message : String)
  deriving DecidableEq, Repr

def ArgumentFault.text : ArgumentFault → String
  | .notNumber => "expected a number"
  | .notCount => "expected a non-negative integer"
  | .notText => "expected a string"
  | .notSequence => "expected a sequence"
  | .noRule => "expected at least one rule"
  | .notOneRule => "expected exactly one rule"
  | .noJsonForm message => message

inductive Fault where
  | unknownRule (place : Place) (name : String)
  | malformedEntry (place : Place) (found : Oddity)
  | emptyChain (place : Place)
  | missingArgument (place : Place) (rule argument : String)
  | invalidArgument (place : Place) (rule argument : String) (reason : ArgumentFault)
  | invalidPattern (place : Place)
  deriving DecidableEq, Repr

namespace Fault

def place : Fault → Place
  | .unknownRule place _ => place
  | .malformedEntry place _ => place
  | .emptyChain place => place
  | .missingArgument place _ _ => place
  | .invalidArgument place _ _ _ => place
  | .invalidPattern place => place

def code : Fault → String
  | .unknownRule .. => "UNKNOWN_RULE"
  | .malformedEntry .. => "MALFORMED_ENTRY"
  | .emptyChain .. => "EMPTY_CHAIN"
  | .missingArgument .. => "MISSING_ARGUMENT"
  | .invalidArgument .. => "INVALID_ARGUMENT"
  | .invalidPattern .. => "INVALID_PATTERN"

private def named (rule : String) : String := "rule '" ++ rule ++ "'"

def detail : Fault → String
  | .unknownRule _ name => "unknown " ++ named name
  | .malformedEntry _ found => "malformed rule entry (" ++ found.text ++ ")"
  | .emptyChain _ => "rule chain is empty"
  | .missingArgument _ rule argument => named rule ++ " requires argument '" ++ argument ++ "'"
  | .invalidArgument _ rule argument reason =>
      named rule ++ " has invalid argument '" ++ argument ++ "': " ++ reason.text
  | .invalidPattern _ => "invalid pattern"

def message (fault : Fault) : String := fault.place.text ++ ": " ++ fault.detail

end Fault

/-- Why a rule document is rejected as a whole. -/
inductive Rejection where
  | unreadable (path reason : String)
  | unparsable (reason : String)
  deriving DecidableEq, Repr

namespace Rejection

def code : Rejection → String
  | .unreadable .. => "IO"
  | .unparsable _ => "PARSE"

def message : Rejection → String
  | .unreadable path reason => "failed to read " ++ path ++ ": " ++ reason
  | .unparsable reason => "failed to parse rule document: " ++ reason

def reason : Rejection → String
  | .unreadable _ reason => reason
  | .unparsable reason => reason

def chain (rejection : Rejection) : String := rejection.message ++ ": " ++ rejection.reason

end Rejection

end SubjectRules
