import SubjectRules.Document.Arguments
import SubjectRules.Document.Check
import SubjectRules.Transformer.Conversion

/-!
# Rules of entries

A rule is written as its name alone, or as a mapping that holds the name beside the
arguments.  The checks that combine others hold them as one rule or a sequence.
-/

namespace SubjectRules

/-- How an entry reads: as a rule, a chain, the entries of a nested object, or none of
them. -/
inductive EntryForm where
  | rule (name : String) (arguments : Yaml.Mapping)
  | chain (items : List Yaml)
  | nested (entries : Yaml.Mapping)
  | odd (found : Oddity)
  deriving Repr

def EntryForm.ofYaml : Yaml → EntryForm
  | .str name => .rule name []
  | .map entries =>
      match Yaml.Mapping.get? "rule" entries with
      | some (.str name) => .rule name entries
      | some _ => .odd .ruleNameNotText
      | none => .nested entries
  | .seq items => .chain items
  | .null => .odd .null
  | .bool _ => .odd .boolean
  | .num _ => .odd .number
  | .tagged _ _ => .odd .taggedValue

def RuleCall.ofYaml (place : Place) (value : Yaml) : Except Fault RuleCall :=
  match EntryForm.ofYaml value with
  | .rule name arguments => .ok ⟨name, arguments, place⟩
  | .chain _ => .error (.malformedEntry place .nestedSequence)
  | .nested _ => .error (.malformedEntry place .mappingWithoutRule)
  | .odd found => .error (.malformedEntry place found)

/-! ## Conversions -/

namespace Conversion

variable [Yaml.JsonForm]

def ofCall (call : RuleCall) : Except Fault Conversion :=
  match call.name with
  | "trim" => .ok .trim
  | "lowercase" => .ok .lowercase
  | "uppercase" => .ok .uppercase
  | "collapse_whitespace" => .ok .collapseWhitespace
  | "default" => return .fallback (← call.json "value")
  | name => .error (.unknownRule call.place name)

def ofYaml (place : Place) (value : Yaml) : Except Fault Conversion := do
  ofCall (← RuleCall.ofYaml place value)

end Conversion

/-! ## Requirements -/

namespace Requirement

variable [PatternEngine] [Yaml.JsonForm]

def ofCall (call : RuleCall) : Except Fault Requirement :=
  match call.name with
  | "required" => .ok .required
  | "not_null" => .ok .notNull
  | "min" => return .min (← call.number "value")
  | "max" => return .max (← call.number "value")
  | "min_length" => return .minLength (← call.count "value")
  | "max_length" => return .maxLength (← call.count "value")
  | "pattern" => do
      let source ← call.text "value"
      match PatternEngine.compile source with
      | some compiled => return .pattern source compiled
      | none => throw (.invalidPattern call.place)
  | "one_of" => return .oneOf (← call.items "values")
  | "starts_with" => return .startsWith (← call.text "value")
  | "ends_with" => return .endsWith (← call.text "value")
  | name => .error (.unknownRule call.place name)

end Requirement

/-! ## Checks -/

namespace Check

inductive Combination where
  | allOf
  | anyOf
  | negation
  deriving DecidableEq, Repr

def Combination.ofName? (name : String) : Option Combination :=
  if name = "all_of" then some .allOf
  else if name = "any_of" then some .anyOf
  else if name = "not" then some .negation
  else none

variable [PatternEngine]

def combine (call : RuleCall) (code : Option String) (parts : List Check) :
    Combination → Except Fault Check
  | .allOf => .ok (.allOf parts code)
  | .anyOf => .ok (.anyOf parts code)
  | .negation =>
      match parts with
      | [part] => .ok (.negation part code)
      | _ => .error (call.invalid "of" .notOneRule)

variable [Yaml.JsonForm]

def ofCall (call : RuleCall) (parts : Except Fault (List Check)) : Except Fault Check := do
  let code ← call.code
  match Combination.ofName? call.name with
  | none => return .basic (← Requirement.ofCall call) code
  | some combination => combine call code (← parts) combination

mutual

def ofYaml (place : Place) : Yaml → Except Fault Check
  | .map entries => do
      let call ← RuleCall.ofYaml place (.map entries)
      ofCall call (partsOf call entries)
  | value => do
      let call ← RuleCall.ofYaml place value
      ofCall call (.error (call.missing "of"))

/-- The parts among the arguments of a combination: a sequence of rules, or one. -/
def partsOf (call : RuleCall) : List (Yaml × Yaml) → Except Fault (List Check)
  | [] => .error (call.missing "of")
  | (.str key, value) :: rest =>
      if key = "of" then
        match value with
        | .seq items =>
            if items.isEmpty then .error (call.invalid "of" .noRule)
            else ofItems call.place 0 items
        | value => return [← ofYaml (call.place.step .part) value]
      else partsOf call rest
  | _ :: rest => partsOf call rest

def ofItems (place : Place) (index : Nat) : List Yaml → Except Fault (List Check)
  | [] => .ok []
  | item :: rest => do
      let check ← ofYaml (place.step (.partElement index)) item
      return check :: (← ofItems place (index + 1) rest)

end

end Check

end SubjectRules
