import SubjectRules.Document.Basic
import SubjectRules.Yaml.Reader

/-!
# Reading rule documents

A rule document is a YAML mapping with at most three fields, or the same as a JSON
object.  A text that holds nothing is the empty document, and so is a section that is
left empty; anything else of the wrong kind rejects the whole document.
-/

namespace SubjectRules.Document

open Yaml (Node ReadError Tree)

/-! ## From YAML -/

/-- A field that may hold a boolean: true, false, null or nothing, without quotes. -/
def flagOfNode (tree : Tree) (node : Node) : Yaml.Read (Option Bool) := do
  let read (text : String) : Yaml.Read (Option Bool) :=
    match Yaml.boolOfText? text with
    | some b => return some b
    | none => throw .shape
  match ← tree.follow node with
  | .scalar none .plain text =>
      if text.isEmpty || Yaml.isNullText text then return none else read text
  | .scalar (some tag) .plain text =>
      if tag = Yaml.coreTag "null" then
        if Yaml.isNullText text then return none else throw .shape
      else read text
  | .scalar tag .literal text =>
      if tag = some (Yaml.coreTag "bool") then read text else throw .shape
  | _ => throw .shape

def sectionOfNode (tree : Tree) (depth : Nat) (node : Node) : Yaml.Read Yaml.Mapping := do
  match ← tree.follow node with
  | .scalar _ .plain "" => return []
  | .mapping _ entries =>
      match depth with
      | 0 => throw .tooDeep
      | depth + 1 => Yaml.entriesWith (tree.value depth) entries
  | _ => throw .shape

def fieldOfNode (tree : Tree) (node : Node) : Yaml.Read String := do
  match ← tree.follow node with
  | .scalar _ _ text => return text
  | _ => throw .shape

/-- The fields that have been read; none may be read twice. -/
structure Draft where
  abortEarly : Option (Option Bool) := none
  transformation : Option Yaml.Mapping := none
  validation : Option Yaml.Mapping := none

def Draft.document (draft : Draft) : Document :=
  ⟨draft.abortEarly.join, draft.transformation.getD [], draft.validation.getD []⟩

def addField (tree : Tree) (depth : Nat) (draft : Draft) (entry : Node × Node) :
    Yaml.Read Draft := do
  match ← fieldOfNode tree entry.1 with
  | "abort_early" =>
      if draft.abortEarly.isSome then throw .repeatedKey
      return { draft with abortEarly := some (← flagOfNode tree entry.2) }
  | "transform" =>
      if draft.transformation.isSome then throw .repeatedKey
      return { draft with transformation := some (← sectionOfNode tree depth entry.2) }
  | "validate" =>
      if draft.validation.isSome then throw .repeatedKey
      return { draft with validation := some (← sectionOfNode tree depth entry.2) }
  | _ => throw .shape

def ofRoot (tree : Tree) : Yaml.Read Document := do
  match ← tree.follow tree.root with
  | .scalar _ .plain "" => return {}
  | .mapping _ entries =>
      let draft ← entries.foldlM (addField tree (Yaml.nestingLimit - 1)) {}
      return draft.document
  | _ => throw .shape

def parse (source : String) : Except ReadError Document := do
  let tokens ← Yaml.Token.ofText? source
  let tree ← Tree.ofTokens? tokens
  (ofRoot tree).run' tree.aliasLimit

def ofText (source : String) : Except Rejection Document :=
  (parse source).mapError fun e => .unparsable e.message

/-! ## From JSON -/

private def wrongShape : Rejection := .unparsable ReadError.shape.message

def flagOfJson : Json → Except Rejection (Option Bool)
  | .null => .ok none
  | .bool b => .ok (some b)
  | _ => .error wrongShape

def sectionOfJson : Json → Except Rejection Yaml.Mapping
  | .obj fields => .ok (Yaml.ofFields fields)
  | _ => .error wrongShape

private def optional {α : Type} (read : Json → Except Rejection α) (otherwise : α) :
    Option Json → Except Rejection α
  | none => .ok otherwise
  | some value => read value

/-- The document that an object writes, or the list of its fields in order. -/
def ofJson : Json → Except Rejection Document
  | .obj fields => do
      if !(Json.Fields.keys fields).all ["abort_early", "transform", "validate"].contains then
        throw wrongShape
      let abortEarly ← optional flagOfJson none (Json.Fields.get? "abort_early" fields)
      let transformation ← optional sectionOfJson [] (Json.Fields.get? "transform" fields)
      let validation ← optional sectionOfJson [] (Json.Fields.get? "validate" fields)
      return ⟨abortEarly, transformation, validation⟩
  | .arr items => do
      if 3 < items.length then throw wrongShape
      let abortEarly ← optional flagOfJson none items[0]?
      let transformation ← optional sectionOfJson [] items[1]?
      let validation ← optional sectionOfJson [] items[2]?
      return ⟨abortEarly, transformation, validation⟩
  | _ => .error wrongShape

end SubjectRules.Document
