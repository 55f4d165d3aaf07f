import SubjectRules.Document.Fault
import SubjectRules.Yaml.Json

/-!
# Arguments of named rules

A rule is named with arguments that stand beside the name.  Each reader looks for one
argument and says what is wrong when it is missing or of the wrong kind.
-/

namespace SubjectRules

structure RuleCall where
  name : String
  arguments : Yaml.Mapping := []
  place : Place
  deriving Repr

namespace RuleCall

def argument? (call : RuleCall) (key : String) : Option Yaml := call.arguments.get? key

def invalid (call : RuleCall) (key : String) (reason : ArgumentFault) : Fault :=
  .invalidArgument call.place call.name key reason

def missing (call : RuleCall) (key : String) : Fault :=
  .missingArgument call.place call.name key

def required (call : RuleCall) (key : String) : Except Fault Yaml :=
  match call.argument? key with
  | some value => .ok value
  | none => .error (call.missing key)

section

variable [Yaml.JsonForm]

def json (call : RuleCall) (key : String) : Except Fault Json := do
  match Yaml.JsonForm.of (← call.required key) with
  | .ok value => return value
  | .error message => throw (call.invalid key (.noJsonForm message))

def number (call : RuleCall) (key : String) : Except Fault Json.Number := do
  match ← call.json key with
  | .num n => return n
  | _ => throw (call.invalid key .notNumber)

def count (call : RuleCall) (key : String) : Except Fault Nat := do
  match (← call.number key).toCount? with
  | some n => return n
  | none => throw (call.invalid key .notCount)

def items (call : RuleCall) (key : String) : Except Fault (List Json) := do
  match ← call.json key with
  | .arr items => return items
  | _ => throw (call.invalid key .notSequence)

end

def text (call : RuleCall) (key : String) : Except Fault String := do
  match (← call.required key).text? with
  | some s => return s
  | none => throw (call.invalid key .notText)

def code (call : RuleCall) : Except Fault (Option String) :=
  match call.argument? "code" with
  | none => .ok none
  | some value =>
      match value.text? with
      | some code => .ok (some code)
      | none => .error (call.invalid "code" .notText)

end RuleCall

end SubjectRules
