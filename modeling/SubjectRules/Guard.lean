import SubjectRules.Subject

/-!
# Guarding calls

A guard decides on the arguments of a call before it is carried out: it transforms
them, validates the result, and lets the call proceed with it or rejects the call and
reports the failures.  The schemas may be fixed or chosen for each call; they are
chosen while the guard is asked, from the call as it came in.
-/

namespace SubjectRules

structure GuardOptions where
  abortEarly : Bool := false
  deriving DecidableEq, Repr

namespace GuardOptions

def toJson (options : GuardOptions) : Json := .obj [("abort_early", .bool options.abortEarly)]

/-- Reads an object, whose unknown fields are ignored, or the list of its fields. -/
def ofJson? : Json → Option GuardOptions
  | .obj fields =>
      match Json.Fields.get? "abort_early" fields with
      | none => some {}
      | some value => value.bool?.map GuardOptions.mk
  | .arr [] => some {}
  | .arr [.bool abortEarly] => some ⟨abortEarly⟩
  | _ => none

def describe (options : GuardOptions) : String :=
  "GuardConfig \x7b abort_early: " ++ (if options.abortEarly then "true" else "false") ++ " \x7d"

end GuardOptions

structure Call where
  root : Json := .null
  arguments : Option Json.Fields
  context : Json := .null
  parentType : String
  fieldName : String
  deriving Repr

inductive Source (ε ρ : Type) where
  | fixed (schema : Schema ρ)
  | chosen (choose : Call → Logged ε (Schema ρ))

namespace Source

variable {ε ρ : Type}

def resolve (source : Source ε ρ) (call : Call) : Logged ε (Schema ρ) :=
  match source with
  | .fixed schema => pure schema
  | .chosen choose => choose call

def describe : Source ε ρ → String
  | .fixed schema => "Static(" ++ Decimal.digitText schema.size ++ ")"
  | .chosen _ => "Dynamic(..)"

def describeOption : Option (Source ε ρ) → String
  | some source => "Some(" ++ source.describe ++ ")"
  | none => "None"

end Source

structure CallRules (ε : Type) where
  transformation : Option (Source ε (Transformer ε)) := none
  validation : Option (Source ε (Validator ε)) := none

inductive Decision where
  | proceed (subject : Option Json.Fields)
  | rejected (failures : FailureTree)
  deriving Repr

/-- A guard reports the failures of every call it rejects. -/
structure Guard (ε : Type) where
  options : GuardOptions
  report : FailureTree → Logged ε Unit

namespace Guard

variable {ε : Type}

def conclude (guard : Guard ε) (subject : Json.Fields) : Option FailureTree → Logged ε Decision
  | some failures => do
      guard.report failures
      return .rejected failures
  | none => return .proceed (some subject)

/-- Decides on a call; without arguments it proceeds and no rule runs. -/
def check (guard : Guard ε) (rules : CallRules ε) (call : Call) : Logged ε (Answer ε Decision) := do
  match call.arguments with
  | none => return .now (.proceed none)
  | some arguments =>
      let transformed ←
        match rules.transformation with
        | some source => do transform arguments (← source.resolve call)
        | none => pure (.now arguments)
      let validation ← rules.validation.mapM (·.resolve call)
      transformed.andThen fun subject =>
        match validation with
        | none => pure (.now (.proceed (some subject)))
        | some schema => do
            let failures ← validate subject schema guard.options.abortEarly
            failures.mapLogged (guard.conclude subject)

def describe (guard : Guard ε) : String :=
  "FieldGuard \x7b config: " ++ guard.options.describe ++ ", .. \x7d"

end Guard

end SubjectRules
