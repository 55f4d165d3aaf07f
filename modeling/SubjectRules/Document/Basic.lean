import SubjectRules.Document.Entry
import SubjectRules.Guard

/-!
# Rule documents

A rule document has a section of conversions and a section of checks, each laid out like
the objects it is for.  Compiling it gives a schema for each section and the faults of
the entries that are left out; a fault never affects another field.
-/

namespace SubjectRules

structure Document where
  abortEarly : Option Bool := none
  transformation : Yaml.Mapping := []
  validation : Yaml.Mapping := []
  deriving Repr

/-! ## Compiling a section -/

abbrev RuleReader (ρ : Type) := Place → Yaml → Except Fault ρ

namespace RuleReader

variable {ρ : Type}

def chain (read : RuleReader ρ) (place : Place) (index : Nat) : List Yaml → Except Fault (List ρ)
  | [] => .ok []
  | item :: rest => do
      let rule ← read (place.step (.element index)) item
      return rule :: (← chain read place (index + 1) rest)

def leaf (read : RuleReader ρ) (place : Place) (value : Yaml) : Except Fault (Leaf ρ) :=
  match EntryForm.ofYaml value with
  | .chain [] => .error (.emptyChain place)
  | .chain items => Leaf.chain <$> read.chain place 0 items
  | _ => Leaf.single <$> read place value

structure Compiled (ρ : Type) where
  entries : List (String × Schema.Node ρ) := []
  faults : List Fault := []
  deriving Repr

namespace Compiled

def append (a b : Compiled ρ) : Compiled ρ := ⟨a.entries ++ b.entries, a.faults ++ b.faults⟩

def schema (c : Compiled ρ) : Schema ρ := Schema.ofEntries c.entries

def ofFault (fault : Fault) : Compiled ρ := { faults := [fault] }

def ofLeaf (key : String) : Except Fault (Leaf ρ) → Compiled ρ
  | .ok rules => { entries := [(key, .leaf rules)] }
  | .error fault => ofFault fault

/-- What a nested object gives under its key; one without rules gives no node. -/
def asBranch (key : String) (inner : Compiled ρ) : Compiled ρ :=
  { entries := if inner.entries.isEmpty then [] else [(key, .branch inner.schema)]
    faults := inner.faults }

end Compiled

mutual

def compileEntry (read : RuleReader ρ) (here : FieldPath) (key : String) : Yaml → Compiled ρ
  | .map entries =>
      match EntryForm.ofYaml (.map entries) with
      | .nested _ => (compileEntries read (here ++ [key]) entries).asBranch key
      | _ => .ofLeaf key (read.leaf ⟨here ++ [key], []⟩ (.map entries))
  | value => .ofLeaf key (read.leaf ⟨here ++ [key], []⟩ value)

/-- Compiles entries in order; a key that is no string is a fault of the mapping. -/
def compileEntries (read : RuleReader ρ) (here : FieldPath) : List (Yaml × Yaml) → Compiled ρ
  | [] => {}
  | (key, value) :: rest =>
      let first : Compiled ρ :=
        match key.text? with
        | some key => compileEntry read here key value
        | none => .ofFault (.malformedEntry ⟨here, []⟩ .keyNotText)
      first.append (compileEntries read here rest)

end

end RuleReader

/-! ## Compiled documents -/

section

variable [PatternEngine]

structure Rules where
  abortEarly : Option Bool
  transformation : Schema Conversion
  validation : Schema Check
  faults : List Fault

namespace Document

/-- The rules of a document, with the faults of the conversions first. -/
def compile [Yaml.JsonForm] (document : Document) : Rules :=
  let conversions :=
    RuleReader.compileEntries Conversion.ofYaml ["transform"] document.transformation
  let checks := RuleReader.compileEntries Check.ofYaml ["validate"] document.validation
  { abortEarly := document.abortEarly
    transformation := conversions.schema
    validation := checks.schema
    faults := conversions.faults ++ checks.faults }

end Document

namespace Rules

variable {ε : Type}

def guardOptions (rules : Rules) (base : GuardOptions) : GuardOptions :=
  ⟨rules.abortEarly.getD base.abortEarly⟩

def transformers (rules : Rules) : Schema (Transformer ε) :=
  rules.transformation.map Conversion.transformer

def validators (rules : Rules) : Schema (Validator ε) := rules.validation.map Check.validator

def callRules (rules : Rules) : CallRules ε where
  transformation := some (.fixed rules.transformers)
  validation := some (.fixed rules.validators)

end Rules

end

end SubjectRules
